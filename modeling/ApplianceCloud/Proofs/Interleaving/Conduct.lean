import ApplianceCloud.Proofs.Interleaving.Interference
import ApplianceCloud.Proofs.Interleaving.Section

/-!
# The conduct of tasks

What a task asks for often depends on what it read before, and by the time of the call others may have
written. A `Conduct` says which single writes there may be, and which calls a task may make, given the
state that it read last. An activity that `Conforms` to it does no more, whatever it is answered and
whatever happens while it waits, and ends with the lock as it found it. To see what was read, an
activity can be `logged`: every call then leaves an entry with that state. `logged_play` says that in
every interleaving all entries and all states are as the conduct has them.
-/

namespace ApplianceCloud

variable {I J : Interface} {σ τ α β π : Type}

structure Conduct (I : Interface) (σ : Type) where
  inv : σ → Prop
  writes : σ → σ → Prop
  asks : (seen : σ) → I.Call → Prop
  inv_of_writes : ∀ {state after}, writes state after → inv state → inv after

def Conduct.keeping (c : Conduct I σ) (kept : σ → Prop)
    (keeps : ∀ {before after}, c.writes before after → kept before → kept after) : Conduct I σ where
  inv state := c.inv state ∧ kept state
  writes := c.writes
  asks := c.asks
  inv_of_writes writes inv := ⟨c.inv_of_writes writes inv.1, keeps writes inv.2⟩

namespace Activity

def Talks : Activity I σ α → Prop
  | done _ => True
  | call _ next => ∀ answer, Talks (next answer)
  | _ => False

def MayAsk (what : I.Call) : Activity I σ α → Prop
  | done _ => False
  | look next => ∃ state, MayAsk what (next state)
  | write _ next | lock next | unlock next => MayAsk what next
  | call other next => other = what ∨ ∃ answer, MayAsk what (next answer)

theorem talks_bind {activity : Activity I σ α} {next : α → Activity I σ β} (h : activity.Talks)
    (rest : ∀ a, (next a).Talks) : (activity >>= next).Talks := by
  change (activity.bind next).Talks
  induction activity with
  | done result => cases result with
    | ok a => exact rest a
    | error failure => trivial
  | call what next ih => exact fun answer => ih answer (h answer)
  | look | write | lock | unlock => exact h.elim

theorem talks_attempt {activity : Activity I σ α} (h : activity.Talks) : activity.attempt.Talks := by
  induction activity with
  | done result => trivial
  | call what next ih => exact fun answer => ih answer (h answer)
  | look | write | lock | unlock => exact h.elim

theorem talks_ask {what : I.Call} : (ask what : Activity I σ (I.Answer what)).Talks := fun _ => trivial

theorem talks_pure {a : α} : (pure a : Activity I σ α).Talks := trivial

theorem talks_fail {failure : Failure} : (fail failure : Activity I σ α).Talks := trivial

theorem talks_lift {result : Except Failure α} : (liftM result : Activity I σ α).Talks := trivial

theorem MayAsk.of_bind {activity : Activity I σ α} {next : α → Activity I σ β} {what : I.Call}
    (asked : (activity >>= next).MayAsk what) :
    activity.MayAsk what ∨ ∃ a, (next a).MayAsk what := by
  change (activity.bind next).MayAsk what at asked
  induction activity with
  | done result => cases result with
    | ok a => exact .inr ⟨a, asked⟩
    | error failure => exact asked.elim
  | look _ ih =>
    obtain ⟨state, asked⟩ := asked
    exact (ih state asked).imp_left fun asked => ⟨state, asked⟩
  | call other _ ih =>
    rcases asked with same | ⟨answer, asked⟩
    · exact .inl (.inl same)
    · exact (ih answer asked).imp_left fun asked => .inr ⟨answer, asked⟩
  | write _ _ ih => exact ih asked
  | lock _ ih => exact ih asked
  | unlock _ ih => exact ih asked

theorem MayAsk.of_attempt {activity : Activity I σ α} {what : I.Call}
    (asked : activity.attempt.MayAsk what) : activity.MayAsk what := by
  induction activity with
  | done result => exact asked
  | look _ ih =>
    obtain ⟨state, asked⟩ := asked
    exact ⟨state, ih state asked⟩
  | call other _ ih =>
    rcases asked with same | ⟨answer, asked⟩
    · exact .inl same
    · exact .inr ⟨answer, ih answer asked⟩
  | write _ _ ih => exact ih asked
  | lock _ ih => exact ih asked
  | unlock _ ih => exact ih asked

/-- Whether an activity keeps to a conduct, from a state on and having read another one last, and ends
with the lock or without it. -/
def ConformsFrom (c : Conduct I σ) (ends : Bool) : Bool → Activity I σ α → (seen now : σ) → Prop
  | holding, done _, _, _ => holding = ends
  | holding, look next, _, now => ConformsFrom c ends holding (next now) now now
  | holding, write after next, seen, now =>
      c.writes now after ∧ ConformsFrom c ends holding next seen after
  | holding, call what next, seen, _ => c.asks seen what ∧
      ∀ answer after, c.inv after → ConformsFrom c ends holding (next answer) seen after
  | false, lock next, seen, _ => ∀ after, c.inv after → ConformsFrom c ends true next seen after
  | true, unlock next, seen, now => ConformsFrom c ends false next seen now
  | _, _, _, _ => False

def Conforms (c : Conduct I σ) (holding : Bool) (activity : Activity I σ α) : Prop :=
  ∀ seen now, c.inv now → activity.ConformsFrom c holding holding seen now

variable {c : Conduct I σ} {holding between ends : Bool} {seen now : σ}

theorem conformsFrom_bind {activity : Activity I σ α} {next : α → Activity I σ β}
    (h : activity.ConformsFrom c ends holding seen now) (inv : c.inv now)
    (rest : ∀ a seen now, c.inv now → (next a).ConformsFrom c ends ends seen now) :
    (activity >>= next).ConformsFrom c ends holding seen now := by
  change (activity.bind next).ConformsFrom c ends holding seen now
  induction activity generalizing holding seen now with
  | done result => cases result with
    | ok a => exact h ▸ rest a seen now inv
    | error failure => exact h
  | look next ih => exact ih now h inv
  | write after next ih => exact ⟨h.1, ih h.2 (c.inv_of_writes h.1 inv)⟩
  | call what next ih => exact ⟨h.1, fun answer after inv => ih answer (h.2 answer after inv) inv⟩
  | lock next ih =>
    cases holding with
    | true => exact h
    | false => exact fun after inv => ih (h after inv) inv
  | unlock next ih =>
    cases holding with
    | true => exact ih h inv
    | false => exact h

theorem conformsFrom_attempt_bind {activity : Activity I σ α}
    {next : Except Failure α → Activity I σ β}
    (h : activity.ConformsFrom c between holding seen now) (inv : c.inv now)
    (rest : ∀ result seen now, c.inv now → (next result).ConformsFrom c ends between seen now) :
    (activity.attempt >>= next).ConformsFrom c ends holding seen now := by
  change (activity.attempt.bind next).ConformsFrom c ends holding seen now
  induction activity generalizing holding seen now with
  | done result => exact h ▸ rest result seen now inv
  | look next ih => exact ih now h inv
  | write after next ih => exact ⟨h.1, ih h.2 (c.inv_of_writes h.1 inv)⟩
  | call what next ih => exact ⟨h.1, fun answer after inv => ih answer (h.2 answer after inv) inv⟩
  | lock next ih =>
    cases holding with
    | true => exact h
    | false => exact fun after inv => ih (h after inv) inv
  | unlock next ih =>
    cases holding with
    | true => exact ih h inv
    | false => exact h

theorem conformsFrom_of_talks {activity : Activity I σ α} (talks : activity.Talks)
    (asks : ∀ what, activity.MayAsk what → c.asks seen what) :
    activity.ConformsFrom c holding holding seen now := by
  induction activity generalizing now with
  | done result => rfl
  | call what next ih =>
    refine ⟨asks what (.inl rfl), fun answer after _ => ih answer (talks answer) fun other may => ?_⟩
    exact asks other (.inr ⟨answer, may⟩)
  | look | write | lock | unlock => exact talks.elim

theorem ConformsFrom.keeping {kept : σ → Prop}
    {keeps : ∀ {before after}, c.writes before after → kept before → kept after}
    {activity : Activity I σ α} (h : activity.ConformsFrom c ends holding seen now) :
    activity.ConformsFrom (c.keeping kept keeps) ends holding seen now := by
  induction activity generalizing holding seen now with
  | done result => exact h
  | look next ih => exact ih now h
  | write after next ih => exact ⟨h.1, ih h.2⟩
  | call what next ih => exact ⟨h.1, fun answer after inv => ih answer (h.2 answer after inv.1)⟩
  | lock next ih =>
    cases holding with
    | true => exact h
    | false => exact fun after inv => ih (h after inv.1)
  | unlock next ih =>
    cases holding with
    | true => exact ih h
    | false => exact h

section Steps

theorem Conforms.bind {activity : Activity I σ α} {next : α → Activity I σ β}
    (h : activity.Conforms c holding) (rest : ∀ a, (next a).Conforms c holding) :
    (activity >>= next).Conforms c holding :=
  fun seen now inv => conformsFrom_bind (h seen now inv) inv rest

theorem Conforms.attempt_bind {activity : Activity I σ α} {next : Except Failure α → Activity I σ β}
    (h : activity.Conforms c holding) (rest : ∀ result, (next result).Conforms c holding) :
    (activity.attempt >>= next).Conforms c holding :=
  fun seen now inv => conformsFrom_attempt_bind (h seen now inv) inv rest

theorem conforms_pure {a : α} : (pure a : Activity I σ α).Conforms c holding := fun _ _ _ => rfl

theorem conforms_fail {failure : Failure} : (fail failure : Activity I σ α).Conforms c holding :=
  fun _ _ _ => rfl

theorem conforms_lift {result : Except Failure α} :
    (liftM result : Activity I σ α).Conforms c holding := fun _ _ _ => rfl

theorem conforms_modify {f : σ → σ} (writes : ∀ state, c.inv state → c.writes state (f state)) :
    (modify f : Activity I σ Unit).Conforms c holding := fun _ now inv => ⟨writes now inv, rfl⟩

theorem conforms_gets_bind {f : σ → α} {next : α → Activity I σ β}
    (h : ∀ state, c.inv state → (next (f state)).ConformsFrom c holding holding state state) :
    (gets f >>= next).Conforms c holding := fun _ now inv => h now inv

theorem conformsFrom_lift_bind {result : Except Failure α} {next : α → Activity I σ β}
    (h : ∀ a, result = .ok a → (next a).ConformsFrom c holding holding seen now) :
    (liftM result >>= next : Activity I σ β).ConformsFrom c holding holding seen now := by
  cases result with
  | ok a => exact h a rfl
  | error failure => rfl

theorem conforms_locked {activity : Activity I σ α} (h : activity.Conforms c true) :
    activity.locked.Conforms c false :=
  fun seen _ _ after inv => conformsFrom_attempt_bind (h seen after inv) inv fun _ _ _ _ => rfl

end Steps

def holdsAt : Place → Bool
  | .inside => true
  | _ => false

theorem conformsFrom_through {activity : Activity I τ α} {read : σ → τ} {replace : τ → σ → σ}
    {perform : (what : I.Call) → Activity J σ (I.Answer what)} {c : Conduct J σ}
    (performs : ∀ what, (perform what).Conforms c true)
    (writes : ∀ whole part, c.inv whole → c.writes whole (replace part whole))
    {post : Place → Prop} {place : Place} (leaves : ∀ place, post place → holdsAt place = ends)
    (sectioned : activity.Sectioned (fun _ => true) (fun _ => True) post place)
    (inv : c.inv now) :
    ((activity.onPart read replace).through perform).ConformsFrom c ends (holdsAt place) seen now := by
  induction activity generalizing place seen now with
  | done result => exact leaves place sectioned
  | look next ih => exact ih _ (sectioned _ trivial) inv
  | write part next ih =>
    have written := writes now part inv
    exact ⟨written, ih sectioned.2 (c.inv_of_writes written inv)⟩
  | call what next ih =>
    have inside : place = .inside := sectioned.1 rfl
    subst inside
    exact conformsFrom_attempt_bind (performs what seen now inv) inv
      fun answer _ _ inv => ih answer (sectioned.2 answer) inv
  | lock next ih =>
    obtain ⟨rfl, later⟩ := sectioned
    exact fun after inv => ih later inv
  | unlock next ih =>
    obtain ⟨rfl, later⟩ := sectioned
    exact ih later inv

end Activity

structure Logbook (I : Interface) (σ : Type) where
  now : σ
  entries : List (σ × I.Call) := []

namespace Logbook

def write (after : σ) (book : Logbook I σ) : Logbook I σ := { book with now := after }

def enter (seen : σ) (what : I.Call) (book : Logbook I σ) : Logbook I σ :=
  { book with entries := book.entries ++ [(seen, what)] }

end Logbook

namespace Conduct

variable (c : Conduct I σ)

def discipline : Discipline σ where
  inv := c.inv
  step _ := c.writes
  rely _ _ := True
  inv_of_step := c.inv_of_writes
  rely_refl _ := trivial
  rely_trans _ _ := trivial
  rely_of_step _ := trivial

end Conduct

variable {c : Conduct I σ}

theorem Activity.keeps_of_conformsFrom {activity : Activity I σ α} {holding : Bool} {seen now : σ}
    (h : activity.ConformsFrom c false holding seen now) :
    activity.Keeps c.discipline (Scene.loose fun _ _ => True) holding now := by
  induction activity generalizing holding seen now with
  | done result => exact ⟨h, trivial⟩
  | look next ih => exact ih now h
  | write after next ih => exact ⟨h.1, ih h.2⟩
  | call what next ih => exact fun answer after inv _ => ih answer (h.2 answer after inv)
  | lock next ih =>
    cases holding with
    | true => exact h
    | false => exact fun after inv => ih (h after inv)
  | unlock next ih =>
    cases holding with
    | true => exact ih h
    | false => exact h

theorem Scene.inv_play {activity : π → Activity I σ α} {start : σ} (initially : c.inv start)
    (conforms : ∀ program, (activity program).Conforms c false) (moves : List (Move I π)) :
    c.inv (play activity start moves).state := by
  have settled : IsSettled c.discipline (fun _ _ => True) (play activity start moves) := by
    apply settled_play initially
    intro program state inv
    exact Activity.keeps_of_conformsFrom (conforms program state state inv)
  exact settled.inv

end ApplianceCloud
