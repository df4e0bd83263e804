import ApplianceCloud.Proofs.Interleaving.Conduct
import ApplianceCloud.Proofs.Interleaving.Surroundings
import Mathlib.Logic.Relation

namespace ApplianceCloud

variable {I J : Interface} {σ τ ω α β : Type}

namespace Activity

def Yields (post : α → Prop) : Activity I σ α → Prop
  | done (.ok a) => post a
  | done (.error _) => True
  | look next => ∀ state, Yields post (next state)
  | call _ next => ∀ answer, Yields post (next answer)
  | write _ next | lock next | unlock next => Yields post next

variable {post : α → Prop}

theorem yields_trivial (activity : Activity I σ α) : activity.Yields fun _ => True := by
  induction activity with
  | done result => cases result <;> trivial
  | look next ih => exact ih
  | call what next ih => exact ih
  | write state next ih => exact ih
  | lock next ih => exact ih
  | unlock next ih => exact ih

theorem yields_bind {between : α → Prop} {post : β → Prop} {activity : Activity I σ α}
    {next : α → Activity I σ β} (h : activity.Yields between)
    (rest : ∀ a, between a → (next a).Yields post) : (activity >>= next).Yields post := by
  change (activity.bind next).Yields post
  induction activity with
  | done result => cases result with
    | ok a => exact rest a h
    | error failure => trivial
  | look _ ih => exact fun state => ih state (h state)
  | call what _ ih => exact fun answer => ih answer (h answer)
  | write state _ ih => exact ih h
  | lock _ ih => exact ih h
  | unlock _ ih => exact ih h

theorem yields_through {perform : (what : I.Call) → Activity J σ (I.Answer what)}
    {activity : Activity I σ α} (h : activity.Yields post) :
    (activity.through perform).Yields post := by
  induction activity with
  | done result => cases result <;> exact h
  | look _ ih => exact fun state => ih state (h state)
  | call what _ ih => exact yields_bind (yields_trivial _) fun answer _ => ih answer (h answer)
  | write state _ ih => exact ih h
  | lock _ ih => exact ih h
  | unlock _ ih => exact ih h

theorem yields_attempt_alone (activity : Activity I τ α) (state : τ) :
    (activity.attempt.alone state : Activity I σ _).Yields fun ended =>
      ∃ result, ended.1 = .ok result := by
  induction activity generalizing state with
  | done result => exact ⟨result, rfl⟩
  | look _ ih => exact ih state state
  | call what _ ih => exact fun answer => ih answer state
  | write after _ ih => exact ih after
  | lock _ ih => exact ih state
  | unlock _ ih => exact ih state

theorem yields_alone {c : Conduct I τ} {ends holding : Bool} {seen now : τ}
    {activity : Activity I τ α} (h : activity.ConformsFrom c ends holding seen now)
    (inv : c.inv now) : (activity.alone now : Activity I σ _).Yields fun ended =>
      Relation.ReflTransGen c.writes now ended.2 := by
  have all (start : τ) (before : Relation.ReflTransGen c.writes start now) :
      (activity.alone now : Activity I σ _).Yields fun ended =>
        Relation.ReflTransGen c.writes start ended.2 := by
    induction activity generalizing holding seen now with
    | done result => exact before
    | look _ ih => exact ih now h inv before
    | call what _ ih => exact fun answer => ih answer (h.2 answer now inv) inv before
    | write after _ ih => exact ih h.2 (c.inv_of_writes h.1 inv) (before.tail h.1)
    | lock _ ih =>
      cases holding with
      | true => exact h.elim
      | false => exact ih (h now inv) inv before
    | unlock _ ih =>
      cases holding with
      | true => exact ih h inv before
      | false => exact h.elim
  exact all now .refl

theorem yields_mapM {γ : Type} {f : γ → Activity I σ α} {items : List γ}
    (h : ∀ item ∈ items, (f item).Yields post) :
    (items.mapM f).Yields fun results => ∀ a ∈ results, post a := by
  have all (made : List α) (good : ∀ a ∈ made, post a) :
      (List.mapM.loop f items made).Yields fun results => ∀ a ∈ results, post a := by
    induction items generalizing made with
    | nil => exact fun a member => good a (List.mem_reverse.1 member)
    | cons item rest ih =>
      refine yields_bind (h item List.mem_cons_self) fun a holds => ?_
      refine ih (fun item member => h item (.tail _ member)) (a :: made) fun other member => ?_
      rcases List.mem_cons.1 member with rfl | before
      · exact holds
      · exact good other before
  exact all [] fun a member => absurd member List.not_mem_nil

theorem result_of_yields {activity : Activity I σ α} (h : activity.Yields post)
    {others : Surroundings I σ ω} {state : σ} {world : ω} {a : α}
    (ended : (activity.among others state world).result = .ok a) : post a := by
  induction activity generalizing state world with
  | done result => cases ended; exact h
  | look _ ih => exact ih state (h state) ended
  | call what _ ih => exact ih _ (h _) ended
  | write after _ ih => exact ih h ended
  | lock _ ih => exact ih h ended
  | unlock _ ih => exact ih h ended

end Activity

end ApplianceCloud
