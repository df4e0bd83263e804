import ApplianceCloud.Cloud.Devices
import ApplianceCloud.Proofs.Capability.Trips
import ApplianceCloud.Proofs.Cloud.Requests

namespace ApplianceCloud

open Activity

variable {σ α β : Type}

theorem Activity.among_bind_lift {I : Interface} {ω : Type} (others : Surroundings I σ ω)
    (activity : Activity I σ α) (read : α → Except Failure β) (state : σ) (world : ω) :
    (activity >>= fun a => (liftM (read a) : Activity I σ β)).among others state world =
      { activity.among others state world with
        result := (activity.among others state world).result >>= read } := by
  rw [among_bind]
  cases result : (activity.among others state world).result with
  | ok a => simp [Ending.then_of_ok result, Ending.behind]
  | error failure => rw [Ending.then_of_error result, error_bind]

namespace ListedDevice

theorem ofTypeId_eq_error_iff {id : Document} {failure : Failure} :
    Family.ofTypeId id = .error failure ↔
      ∃ fault, id.toInteger = .error fault ∧ fault.isOverflow = true ∧ failure = .conversion fault := by
  unfold Family.ofTypeId
  cases id.toInteger with
  | ok n => simp
  | error fault =>
    cases overflow : fault.isOverflow with
    | false => simp [overflow]
    | true => simp [overflow, eq_comm (a := failure)]

theorem ofMembers_eq_error_iff {members : Fields Document} {failure : Failure}
    (named : members.has "deviceId" = true) : ofMembers members = .error failure ↔
      Family.ofTypeId (members.orNull "deviceType") = .error failure := by
  obtain ⟨id, found⟩ := Option.isSome_iff_exists.1 named
  simp only [ofMembers, found]
  cases Family.ofTypeId (members.orNull "deviceType") <;> simp

end ListedDevice

namespace Cloud

def HasInfiniteType (envelope : Fields Document) : Prop :=
  ∃ result items members, envelope.lookup "result" = some (.object result) ∧
    result.lookup "item" = some (.list items) ∧ .object members ∈ items ∧
    members.has "deviceId" = true ∧ IsInfinite members "deviceType"

variable {envelope : Fields Document} {item : Document} {failure : Failure}

theorem listedDevice?_eq_error_iff : listedDevice? item = .error failure ↔
    ∃ members : Fields Document, item = .object members ∧ members.has "deviceId" = true ∧
      Family.ofTypeId (members.orNull "deviceType") = .error failure := by
  unfold listedDevice?
  cases item with
  | object members =>
    cases named : Fields.has members "deviceId" with
    | false => simp [Document.object?, named]
    | true => simp [Document.object?, named, map_eq_error_iff, ListedDevice.ofMembers_eq_error_iff named]
  | _ => simp [Document.object?]

theorem mem_itemsOf : item ∈ itemsOf envelope ↔ ∃ result items,
    envelope.lookup "result" = some (.object result) ∧ result.lookup "item" = some (.list items) ∧
      item ∈ items := by
  unfold itemsOf Fields.orNull Document.member?
  cases envelope.lookup "result" with
  | none => simp [Document.object?]
  | some node =>
    cases node with
    | object result =>
      cases found : result.lookup "item" with
      | none => simp [Document.object?, found]
      | some listed => cases listed <;> simp [Document.object?, Document.list?, found]
    | _ => simp [Document.object?]

theorem isInfinite_iff {members : Fields Document} : IsInfinite members "deviceType" ↔
    ∃ failure, Family.ofTypeId (members.orNull "deviceType") = .error failure := by
  have infinite : IsInfinite members "deviceType" ↔
      ∃ negative, members.orNull "deviceType" = .number (.infinite negative) := by
    unfold IsInfinite Fields.orNull
    cases members.lookup "deviceType" <;> simp
  rw [infinite, ← isOverflow_toInteger_iff]
  simp [ListedDevice.ofTypeId_eq_error_iff]

theorem devicesOf_eq_error_iff : devicesOf envelope = .error failure ↔
    (itemsOf envelope).mapM listedDevice? = .error failure := by
  unfold devicesOf
  cases (itemsOf envelope).mapM listedDevice? <;> simp

theorem exists_devicesOf_eq_error_iff :
    (∃ failure, devicesOf envelope = .error failure) ↔ HasInfiniteType envelope := by
  simp only [devicesOf_eq_error_iff, exists_mapM_eq_error_iff]
  constructor
  · rintro ⟨item, listed, failure, failed⟩
    obtain ⟨result, items, given, found, member⟩ := mem_itemsOf.1 listed
    obtain ⟨members, rfl, named, unread⟩ := listedDevice?_eq_error_iff.1 failed
    exact ⟨result, items, members, given, found, member, named, isInfinite_iff.2 ⟨failure, unread⟩⟩
  · rintro ⟨result, items, members, given, found, member, named, infinite⟩
    obtain ⟨failure, unread⟩ := isInfinite_iff.1 infinite
    exact ⟨_, mem_itemsOf.2 ⟨result, items, given, found, member⟩, failure,
      listedDevice?_eq_error_iff.2 ⟨members, rfl, named, unread⟩⟩

theorem isOwn_of_devicesOf (failed : devicesOf envelope = .error failure) : failure.isOwn = false := by
  obtain ⟨-, item, -, -, -, failed⟩ := mapM_eq_error_iff.1 (devicesOf_eq_error_iff.1 failed)
  obtain ⟨members, -, -, unread⟩ := listedDevice?_eq_error_iff.1 failed
  obtain ⟨fault, -, -, rfl⟩ := ListedDevice.ofTypeId_eq_error_iff.1 unread
  rfl

def listed (url : String) (answer : Except Failure Reply) : Except Failure (List ListedDevice) := do
  devicesOf (← Envelope.ofReply .second url (← answer))

def listing : Call := .send .get listingPath none

section

variable {replies : Replies cloud} {token : Token} {number : MessageNumber} {root : String}

theorem among_listDevices (state : σ) (given : replies CloudCall.token = .ok token)
    (rooted : token.secondRoot = .text root) (numbered : replies CloudCall.number = .ok number) :
    let request := listing.request token number root
    let ending := listDevices.among (.fixed replies) state ()
    requestsOf ending.calls = [request] ∧
      ending.result = listed request.url (replies (CloudCall.request request)) := by
  intro request ending
  obtain ⟨asked, failed, judged⟩ :=
    @Call.among_answered σ replies listing state token number root given rooted numbered
  have ended : ending = { listing.activity.among (.fixed replies) state () with
      result := (listing.activity.among (.fixed replies) state ()).result >>= devicesOf } :=
    among_bind_lift (.fixed replies) listing.activity devicesOf state ()
  rw [ended]
  refine ⟨asked, ?_⟩
  cases answered : replies (CloudCall.request request) with
  | error failure =>
    have result := failed failure answered
    rw [result]
    rfl
  | ok reply =>
    have result := judged reply answered
    rw [result]
    rfl

def ownToken (token : Token) (replies : Replies cloud) : Replies cloud
  | .token => .ok token
  | .number => replies CloudCall.number
  | .request what => replies (CloudCall.request what)
  | .pause seconds => replies (CloudCall.pause seconds)

theorem among_withToken (token : Token) (replies : Replies cloud) (activity : Cloud σ α) (state : σ) :
    let own := (withToken token activity).among (.fixed replies) state ()
    let given := activity.among (.fixed (ownToken token replies)) state ()
    own.result = given.result ∧ requestsOf own.calls = requestsOf given.calls := by
  change let own := (activity.through (answerWith token)).among (.fixed replies) state (); _
  induction activity generalizing state with
  | done result => exact ⟨rfl, rfl⟩
  | look next ih => exact ih state state
  | write after next ih => exact ih after
  | lock next ih => exact ih state
  | unlock next ih => exact ih state
  | call what next ih =>
    cases what with
    | token => exact ih (.ok token) state
    | number => exact ih (replies CloudCall.number) state
    | request what =>
      obtain ⟨result, asked⟩ := ih (replies (CloudCall.request what)) state
      exact ⟨result, congrArg (what :: ·) asked⟩
    | pause seconds => exact ih (replies (CloudCall.pause seconds)) state

end

end Cloud

end ApplianceCloud
