import ApplianceCloud.Proofs.Interleaving.Basic

/-!
# Sections

Some calls count, and a sectioned activity makes them only while it holds the lock, which it takes
once at most. Everything else it may do at any time. `contiguous_play` says of such activities that
run at the same time that what counts of one task is never mixed with what counts of another.
-/

namespace ApplianceCloud

variable {I J : Interface} {σ τ α β π : Type}

/-- Whether the entries of every task follow one another. -/
def Contiguous (tasks : List Nat) : Prop :=
  ∀ first middle last task : Nat, first ≤ middle → middle ≤ last →
    tasks[first]? = some task → tasks[last]? = some task → tasks[middle]? = some task

def IsLatest (task : Nat) (tasks : List Nat) : Prop := task ∈ tasks → tasks.getLast? = some task

theorem Contiguous.append {tasks : List Nat} {task : Nat} (h : Contiguous tasks)
    (latest : IsLatest task tasks) : Contiguous (tasks ++ [task]) := by
  intro first middle last other upper lower atFirst atLast
  have room := (List.getElem?_eq_some_iff.1 atLast).1
  rw [List.length_append, List.length_singleton] at room
  rcases Nat.lt_succ_iff_lt_or_eq.1 room with inside | rfl
  · rw [List.getElem?_append_left inside] at atLast
    rw [List.getElem?_append_left (by omega)] at atFirst ⊢
    exact h first middle last other upper lower atFirst atLast
  · rcases Nat.lt_or_eq_of_le lower with before | rfl
    · have own : task = other := by simpa using atLast
      subst own
      rw [List.getElem?_append_left (by omega)] at atFirst ⊢
      have atEnd := latest (List.mem_of_getElem? atFirst)
      rw [List.getLast?_eq_getElem?] at atEnd
      exact h first middle (tasks.length - 1) task upper (by omega) atFirst atEnd
    · exact atLast

def Occurrence.what : Occurrence I → I.Call
  | asked what => what
  | answered what _ => what

inductive Place where
  | before
  | inside
  | after

namespace Activity

def Sectioned (counts : I.Call → Bool) (inv : σ → Prop) (post : Place → Prop) :
    Activity I σ α → Place → Prop
  | done _, place => post place
  | look next, place => ∀ state, inv state → Sectioned counts inv post (next state) place
  | write state next, place => inv state ∧ Sectioned counts inv post next place
  | call what next, place => (counts what = true → place = .inside) ∧
      ∀ answer, Sectioned counts inv post (next answer) place
  | lock next, place => place = .before ∧ Sectioned counts inv post next .inside
  | unlock next, place => place = .inside ∧ Sectioned counts inv post next .after

variable {counts : I.Call → Bool} {inv : σ → Prop} {post : Place → Prop} {place : Place}

theorem sectioned_mono {post' : Place → Prop} {activity : Activity I σ α}
    (h : activity.Sectioned counts inv post place) (le : ∀ place, post place → post' place) :
    activity.Sectioned counts inv post' place := by
  induction activity generalizing place with
  | done result => exact le _ h
  | look next ih => exact fun state holds => ih state (h state holds)
  | write state next ih => exact ⟨h.1, ih h.2⟩
  | call what next ih => exact ⟨h.1, fun answer => ih answer (h.2 answer)⟩
  | lock next ih => exact ⟨h.1, ih h.2⟩
  | unlock next ih => exact ⟨h.1, ih h.2⟩

theorem sectioned_bind {between : Place → Prop} {activity : Activity I σ α}
    {next : α → Activity I σ β} (h : activity.Sectioned counts inv between place)
    (fails : ∀ place, between place → post place)
    (rest : ∀ a place, between place → (next a).Sectioned counts inv post place) :
    (activity >>= next).Sectioned counts inv post place := by
  change (activity.bind next).Sectioned counts inv post place
  induction activity generalizing place with
  | done result => cases result with
    | ok a => exact rest a place h
    | error failure => exact fails place h
  | look next ih => exact fun state holds => ih state (h state holds)
  | write state next ih => exact ⟨h.1, ih h.2⟩
  | call what next ih => exact ⟨h.1, fun answer => ih answer (h.2 answer)⟩
  | lock next ih => exact ⟨h.1, ih h.2⟩
  | unlock next ih => exact ⟨h.1, ih h.2⟩

theorem sectioned_attempt {activity : Activity I σ α}
    (h : activity.Sectioned counts inv post place) :
    activity.attempt.Sectioned counts inv post place := by
  induction activity generalizing place with
  | done result => exact h
  | look next ih => exact fun state holds => ih state (h state holds)
  | write state next ih => exact ⟨h.1, ih h.2⟩
  | call what next ih => exact ⟨h.1, fun answer => ih answer (h.2 answer)⟩
  | lock next ih => exact ⟨h.1, ih h.2⟩
  | unlock next ih => exact ⟨h.1, ih h.2⟩

theorem sectioned_attempt_bind {between : Place → Prop} {activity : Activity I σ α}
    {next : Except Failure α → Activity I σ β} (h : activity.Sectioned counts inv between place)
    (rest : ∀ result place, between place → (next result).Sectioned counts inv post place) :
    (activity.attempt >>= next).Sectioned counts inv post place := by
  change (activity.attempt.bind next).Sectioned counts inv post place
  induction activity generalizing place with
  | done result => exact rest result place h
  | look next ih => exact fun state holds => ih state (h state holds)
  | write state next ih => exact ⟨h.1, ih h.2⟩
  | call what next ih => exact ⟨h.1, fun answer => ih answer (h.2 answer)⟩
  | lock next ih => exact ⟨h.1, ih h.2⟩
  | unlock next ih => exact ⟨h.1, ih h.2⟩

abbrev Stays (counts : I.Call → Bool) (inv : σ → Prop) (place : Place) (activity : Activity I σ α) :
    Prop :=
  activity.Sectioned counts inv (· = place) place

section Stays

theorem Stays.then {activity : Activity I σ α} {next : α → Activity I σ β}
    (h : activity.Stays counts inv place) (fails : post place)
    (rest : ∀ a, (next a).Sectioned counts inv post place) :
    (activity >>= next).Sectioned counts inv post place := by
  refine sectioned_bind h ?_ ?_
  · rintro _ rfl
    exact fails
  · rintro a _ rfl
    exact rest a

theorem Stays.attempt_then {activity : Activity I σ α} {next : Except Failure α → Activity I σ β}
    (h : activity.Stays counts inv place)
    (rest : ∀ result, (next result).Sectioned counts inv post place) :
    (activity.attempt >>= next).Sectioned counts inv post place := by
  refine sectioned_attempt_bind h ?_
  rintro result _ rfl
  exact rest result

theorem Stays.bind {activity : Activity I σ α} {next : α → Activity I σ β}
    (h : activity.Stays counts inv place) (rest : ∀ a, (next a).Stays counts inv place) :
    (activity >>= next).Stays counts inv place := h.then rfl rest

theorem stays_pure {a : α} : (pure a : Activity I σ α).Stays counts inv place := rfl

theorem stays_fail {failure : Failure} : (fail failure : Activity I σ α).Stays counts inv place := rfl

theorem stays_lift {result : Except Failure α} :
    (liftM result : Activity I σ α).Stays counts inv place := rfl

theorem stays_ask {what : I.Call} (free : counts what = true → place = .inside) :
    (ask what : Activity I σ (I.Answer what)).Stays counts inv place := ⟨free, fun _ => rfl⟩

theorem stays_gets {f : σ → α} : (gets f : Activity I σ α).Stays counts inv place := fun _ _ => rfl

theorem stays_modify {f : σ → σ} (keeps : ∀ state, inv state → inv (f state)) :
    (modify f : Activity I σ Unit).Stays counts inv place := fun state holds => ⟨keeps state holds, rfl⟩

theorem sectioned_gets {f : σ → α} {next : α → Activity I σ β}
    (h : ∀ state, inv state → (next (f state)).Sectioned counts inv post place) :
    (gets f >>= next).Sectioned counts inv post place := h

theorem sectioned_locked {activity : Activity I σ α} (h : activity.Stays counts inv .inside) :
    activity.locked.Sectioned counts inv (· = .after) .before :=
  ⟨rfl, h.attempt_then fun _ => ⟨rfl, rfl⟩⟩

end Stays

theorem sectioned_onPart {activity : Activity I τ α} {read : σ → τ} {replace : τ → σ → σ}
    (keeps : ∀ part whole, inv whole → inv (replace part whole))
    (h : activity.Sectioned counts (fun _ => True) post place) :
    (activity.onPart read replace).Sectioned counts inv post place := by
  induction activity generalizing place with
  | done result => exact h
  | look next ih => exact fun whole _ => ih _ (h _ trivial)
  | write part next ih => exact fun whole holds => ⟨keeps part whole holds, ih h.2⟩
  | call what next ih => exact ⟨h.1, fun answer => ih answer (h.2 answer)⟩
  | lock next ih => exact ⟨h.1, ih h.2⟩
  | unlock next ih => exact ⟨h.1, ih h.2⟩

theorem sectioned_through {counts' : J.Call → Bool}
    {perform : (what : I.Call) → Activity J σ (I.Answer what)} {activity : Activity I σ α}
    (performs : ∀ what, (perform what).Stays counts' inv .inside)
    (h : activity.Sectioned (fun _ => true) inv post place) :
    (activity.through perform).Sectioned counts' inv post place := by
  induction activity generalizing place with
  | done result => exact h
  | look next ih => exact fun state holds => ih state (h state holds)
  | write state next ih => exact ⟨h.1, ih h.2⟩
  | call what next ih =>
    have inside : place = .inside := h.1 rfl
    subst inside
    exact (performs what).attempt_then fun answer => ih answer (h.2 answer)
  | lock next ih => exact ⟨h.1, ih h.2⟩
  | unlock next ih => exact ⟨h.1, ih h.2⟩

end Activity

namespace Scene

open Activity

variable {counts : I.Call → Bool} {inv : σ → Prop} {task : Nat} {scene : Scene I σ α}
  {spot : Place}

def counted (counts : I.Call → Bool) (scene : Scene I σ α) : List Nat :=
  (scene.trace.filter fun event => counts event.2.what).map Prod.fst

abbrev Outside (place : Place) : Prop := place ≠ .inside

def SectionedStage (counts : I.Call → Bool) (inv : σ → Prop) (place : Place) : Stage I σ α → Prop
  | .calling what next => (counts what = true → place = .inside) ∧
      ∀ answer, (next answer).Sectioned counts inv Outside place
  | .queued next => place = .before ∧ next.Sectioned counts inv Outside .inside
  | .ended _ => Outside place

structure StandsAt (holder? : Option Nat) (counted : List Nat) (task : Nat) (place : Place) :
    Prop where
  inside_iff : place = .inside ↔ holder? = some task
  before : place = .before → task ∉ counted

theorem StandsAt.handOver {holder? after? : Option Nat} {counted : List Nat} {place : Place}
    (h : StandsAt holder? counted task place) (same : after? = some task ↔ holder? = some task) :
    StandsAt after? counted task place :=
  ⟨h.inside_iff.trans same.symm, h.before⟩

structure SectionedAmong (counts : I.Call → Bool) (inv : σ → Prop) (group : Nat → Prop)
    (scene : Scene I σ α) : Prop where
  invariant : inv scene.state
  contiguous : Contiguous (scene.counted counts)
  latest : ∀ task, scene.holder? = some task → IsLatest task (scene.counted counts)
  present : ∀ task, task ∈ scene.counted counts ∨ scene.holder? = some task →
    task < scene.stages.length
  stages : ∀ task stage, group task → scene.stages[task]? = some stage →
    ∃ place, StandsAt scene.holder? (scene.counted counts) task place ∧
      SectionedStage counts inv place stage

theorem counted_record (occurrence : Occurrence I) :
    (scene.record task occurrence).counted counts =
      if counts occurrence.what then scene.counted counts ++ [task] else scene.counted counts := by
  cases counted : counts occurrence.what <;>
    simp [Scene.counted, Scene.record, List.filter_append, counted]

theorem SectionedAmong.place (h : scene.SectionedAmong counts inv (· ≠ task))
    (inside : task < scene.stages.length) {stage : Stage I σ α}
    (stands : StandsAt scene.holder? (scene.counted counts) task spot)
    (sectioned : SectionedStage counts inv spot stage) :
    (scene.place task stage).SectionedAmong counts inv (fun _ => True) where
  invariant := h.invariant
  contiguous := h.contiguous
  latest := h.latest
  present other known := by simpa [Scene.place] using h.present other known
  stages other stage' _ found := by
    by_cases same : other = task
    · subst same
      rw [getElem?_place_self inside, Option.some.injEq] at found
      exact ⟨spot, stands, found ▸ sectioned⟩
    · rw [getElem?_place_ne same] at found
      exact h.stages other stage' same found

theorem SectionedAmong.record (h : scene.SectionedAmong counts inv (· ≠ task))
    (inside : task < scene.stages.length)
    (stands : StandsAt scene.holder? (scene.counted counts) task spot) (occurrence : Occurrence I)
    (free : counts occurrence.what = true → spot = .inside) :
    (scene.record task occurrence).SectionedAmong counts inv (· ≠ task) ∧
      StandsAt scene.holder? ((scene.record task occurrence).counted counts) task spot := by
  cases counted : counts occurrence.what with
  | false =>
    have same : (scene.record task occurrence).counted counts = scene.counted counts := by
      simp [counted_record, counted]
    rw [same]
    exact ⟨⟨h.invariant, same ▸ h.contiguous, same ▸ h.latest, same ▸ h.present,
      same ▸ h.stages⟩, stands⟩
  | true =>
    have atInside := free counted
    have holds := stands.inside_iff.1 atInside
    have more : (scene.record task occurrence).counted counts = scene.counted counts ++ [task] := by
      simp [counted_record, counted]
    -- The task holds the lock, so what counts so far of this task stands at the end.
    refine ⟨⟨h.invariant, ?_, ?_, ?_, ?_⟩, stands.inside_iff, ?_⟩
    · rw [more]
      exact h.contiguous.append (h.latest task holds)
    · intro other held
      have same : task = other := Option.some.inj (holds.symm.trans held)
      rw [more, same]
      exact fun _ => List.getLast?_concat ..
    · intro other known
      rw [more, List.mem_append, List.mem_singleton] at known
      rcases known with (old | rfl) | held
      · exact h.present other (.inl old)
      · exact inside
      · exact h.present other (.inr held)
    · intro other stage ne found
      obtain ⟨place, stands, sectioned⟩ := h.stages other stage ne found
      refine ⟨place, ⟨stands.inside_iff, fun before => ?_⟩, sectioned⟩
      rw [more, List.mem_append, List.mem_singleton, not_or]
      exact ⟨stands.before before, ne⟩
    · intro before
      rw [atInside] at before
      cases before

theorem SectionedAmong.handOver (h : scene.SectionedAmong counts inv (· ≠ task))
    (inside : task < scene.stages.length) (loose : ∀ other ≠ task, scene.holder? ≠ some other)
    {holder? : Option Nat} (mine : ∀ other ∈ holder?, other = task ∧ task ∉ scene.counted counts) :
    { scene with holder? }.SectionedAmong counts inv (· ≠ task) where
  invariant := h.invariant
  contiguous := h.contiguous
  latest other held := by
    -- A task takes the lock once, so nothing of it counts yet.
    obtain ⟨rfl, unseen⟩ := mine other held
    exact fun member => absurd member unseen
  present other known := by
    rcases known with old | held
    · exact h.present other (.inl old)
    · obtain ⟨rfl, -⟩ := mine other held
      exact inside
  stages other stage ne found := by
    obtain ⟨place, stands, sectioned⟩ := h.stages other stage ne found
    refine ⟨place, stands.handOver ?_, sectioned⟩
    exact iff_of_false (fun held => ne (mine other held).1) (loose other ne)

theorem sectioned_goOn (activity : Activity I σ α) (scene : Scene I σ α)
    (inside : task < scene.stages.length) (others : scene.SectionedAmong counts inv (· ≠ task))
    (stands : StandsAt scene.holder? (scene.counted counts) task spot)
    (sectioned : activity.Sectioned counts inv Outside spot) :
    (scene.goOn task activity).SectionedAmong counts inv fun _ => True := by
  induction activity generalizing scene spot with
  | done result => exact others.place inside stands sectioned
  | look next ih => exact ih _ scene inside others stands (sectioned _ others.invariant)
  | write state next ih =>
    have rest : { scene with state }.SectionedAmong counts inv (· ≠ task) :=
      ⟨sectioned.1, others.contiguous, others.latest, others.present, others.stages⟩
    exact ih { scene with state } inside rest stands sectioned.2
  | call what next ih =>
    obtain ⟨rest, still⟩ := others.record inside stands (.asked what) sectioned.1
    exact rest.place inside still sectioned
  | lock next ih =>
    obtain ⟨rfl, later⟩ := sectioned
    rw [goOn]
    split
    · next free =>
      have none : scene.holder? = none := by simp_all [isFree]
      let taken : Scene I σ α := { scene with holder? := some task }
      have rest : taken.SectionedAmong counts inv (· ≠ task) := by
        refine others.handOver inside (fun other _ => by simp [none]) ?_
        rintro other held
        cases held
        exact ⟨rfl, stands.before rfl⟩
      exact ih taken inside rest ⟨iff_of_true rfl rfl, nofun⟩ later
    · have rest : ({ scene with waiting := scene.waiting ++ [task] } : Scene I σ α).SectionedAmong
          counts inv (· ≠ task) :=
        ⟨others.invariant, others.contiguous, others.latest, others.present, others.stages⟩
      exact rest.place inside stands ⟨rfl, later⟩
  | unlock next ih =>
    obtain ⟨rfl, later⟩ := sectioned
    have holds := stands.inside_iff.1 rfl
    let left : Scene I σ α := { scene with holder? := none }
    have rest : left.SectionedAmong counts inv (· ≠ task) := by
      refine others.handOver inside (fun other ne => ?_) nofun
      rw [holds, ne_eq, Option.some.injEq]
      exact ne.symm
    have stands : StandsAt none (scene.counted counts) task .after :=
      ⟨iff_of_false nofun nofun, nofun⟩
    exact ih left inside rest stands later

abbrev IsSectioned (counts : I.Call → Bool) (inv : σ → Prop) (scene : Scene I σ α) : Prop :=
  scene.SectionedAmong counts inv fun _ => True

theorem IsSectioned.others (h : scene.IsSectioned counts inv) (task : Nat) :
    scene.SectionedAmong counts inv (· ≠ task) :=
  ⟨h.invariant, h.contiguous, h.latest, h.present,
    fun other stage _ found => h.stages other stage trivial found⟩

theorem IsSectioned.enter (h : scene.IsSectioned counts inv) (activity : Activity I σ α)
    (sectioned : activity.Sectioned counts inv Outside .before) :
    (goOn scene.stages.length activity
      { scene with stages := scene.stages ++ [Stage.queued activity] }).IsSectioned counts inv := by
  let entered : Scene I σ α := { scene with stages := scene.stages ++ [Stage.queued activity] }
  have unknown : ¬ (scene.stages.length ∈ scene.counted counts ∨
      scene.holder? = some scene.stages.length) :=
    fun known => Nat.lt_irrefl _ (h.present _ known)
  obtain ⟨unseen, loose⟩ := not_or.1 unknown
  have others : entered.SectionedAmong counts inv (· ≠ scene.stages.length) := by
    refine ⟨h.invariant, h.contiguous, h.latest, fun task known => ?_, fun task stage ne found => ?_⟩
    · have before := h.present task known
      simp only [entered, List.length_append, List.length_singleton]
      omega
    · exact h.stages task stage trivial (getElem?_of_append_ne ne found)
  have stands : StandsAt scene.holder? (scene.counted counts) scene.stages.length .before :=
    ⟨iff_of_false nofun loose, fun _ => unseen⟩
  exact sectioned_goOn activity entered (by simp [entered]) others stands sectioned

theorem IsSectioned.answer (h : scene.IsSectioned counts inv) {what : I.Call}
    {next : Except Failure (I.Answer what) → Activity I σ α}
    (found : scene.stages[task]? = some (.calling what next))
    (answer : Except Failure (I.Answer what)) :
    ((scene.record task (.answered what answer)).goOn task (next answer)).IsSectioned counts inv := by
  have inside := (List.getElem?_eq_some_iff.1 found).1
  obtain ⟨place, stands, free, later⟩ := h.stages task _ trivial found
  obtain ⟨rest, still⟩ := (h.others task).record inside stands (.answered what answer) free
  exact sectioned_goOn (next answer) _ inside rest still (later answer)

theorem IsSectioned.grant (h : scene.IsSectioned counts inv) {rest : List Nat}
    {next : Activity I σ α} (none : scene.holder? = none)
    (found : scene.stages[task]? = some (.queued next)) :
    (goOn task next { scene with holder? := some task, waiting := rest }).IsSectioned counts inv := by
  let granted : Scene I σ α := { scene with holder? := some task, waiting := rest }
  have inside := (List.getElem?_eq_some_iff.1 found).1
  obtain ⟨place, stands, rfl, later⟩ := h.stages task _ trivial found
  have taken := (h.others task).handOver inside (fun other _ => by simp [none])
    (show ∀ other ∈ some task, other = task ∧ task ∉ scene.counted counts by
      rintro other held
      cases held
      exact ⟨rfl, stands.before rfl⟩)
  have others : granted.SectionedAmong counts inv (· ≠ task) :=
    ⟨taken.invariant, taken.contiguous, taken.latest, taken.present, taken.stages⟩
  exact sectioned_goOn next granted inside others ⟨iff_of_true rfl rfl, nofun⟩ later

variable {activity : π → Activity I σ α}

theorem contiguous_play {start : σ} (initially : inv start)
    (sectioned : ∀ program, (activity program).Sectioned counts inv Outside .before)
    (moves : List (Move I π)) : Contiguous ((play activity start moves).counted counts) := by
  have all : (play activity start moves).IsSectioned counts inv := by
    apply play_induction
    · exact ⟨initially, nofun, nofun, by simp [counted], nofun⟩
    · exact fun scene program h => h.enter _ (sectioned program)
    · exact fun scene task what next answer h found => h.answer found answer
    · exact fun scene task rest next h none found => h.grant none found
  exact all.contiguous

end Scene

end ApplianceCloud
