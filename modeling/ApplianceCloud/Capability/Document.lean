import ApplianceCloud.Capability.AirConditioner
import ApplianceCloud.Capability.Laundry
import ApplianceCloud.Capability.Refrigerator

namespace ApplianceCloud.Capability

def ofFamily (document : Fields Document) (family : Family) : Except Failure Capability := do
  let generation ← Detection.generation document family
  if family = .airConditioner then
    return .airConditioner (← AirConditioner.ofDocument document family generation)
  else if family.isLaundry then
    return .laundry (← Laundry.ofDocument document family generation)
  else
    return .refrigerator (← Refrigerator.ofDocument document family generation)

def givenFamily? (family : Option Family) : Option Family := family.filter (· ≠ .unknown)

def ofDocument (document : Document) (family : Option Family) : Except Failure Capability :=
  match document.object? with
  | none => .error (.capability .notObject)
  | some members => do
      let family ← match givenFamily? family with
        | some family => .ok family
        | none => Detection.family members
      ofFamily members family

theorem ofFamily_of_ofDocument {document : Document} {requested : Option Family}
    {capability : Capability} (read : ofDocument document requested = .ok capability) :
    ∃ members family, document = .object members ∧ ofFamily members family = .ok capability := by
  cases document with
  | object members =>
    unfold ofDocument at read
    cases given : givenFamily? requested with
    | some family =>
      simp only [Document.object?, given] at read
      exact ⟨members, family, rfl, read⟩
    | none =>
      cases found : Detection.family members with
      | error failure =>
        simp only [Document.object?, given, found] at read
        cases read
      | ok family =>
        simp only [Document.object?, given, found] at read
        exact ⟨members, family, rfl, read⟩
  | _ => cases read

end ApplianceCloud.Capability
