import ApplianceCloud.Proofs.Account.Relisting
import ApplianceCloud.Proofs.Cloud.Classification
import ApplianceCloud.Proofs.Interleaving.Results

namespace ApplianceCloud

open Activity

variable {σ ω : Type}

theorem Fields.has_putAll {α : Type} (fields extra : Fields α) (key : String) :
    (fields.putAll extra).has key = (fields.has key || extra.any fun field => field.1 = key) := by
  induction extra generalizing fields with
  | nil => simp [Fields.putAll]
  | cons field rest ih =>
    change (Fields.putAll (fields.put field.1 field.2) rest).has key = _
    rw [ih, Fields.has, Fields.lookup_put, List.any_cons]
    by_cases same : key = field.1
    · simp [same]
    · simp [same, Ne.symm same, Fields.has]

namespace Roster

theorem has_byId (devices : List ListedDevice) (id : String) :
    (byId devices).has id = devices.any fun device => device.id = id := by
  rw [byId, Fields.ofPairs, Fields.has_putAll, List.any_map]
  rfl

theorem yields_refresh (interval? : Option Nat) :
    (refresh.alone { interval? } : Cloud σ _).Yields fun ended =>
      ended.2.lastFailure? = none → ended.2.devices?.isSome := by
  change (alone (Activity.bind (attempt listing) _) _).Yields _
  rw [alone_bind]
  refine yields_bind (yields_attempt_alone listing _) ?_
  rintro ⟨-, roster⟩ ⟨result, rfl⟩
  cases result with
  | ok devices => exact fun _ => rfl
  | error cause => exact fun unfailed => absurd unfailed (Option.some_ne_none _)

end Roster

namespace Account

structure Founded (account : Account) : Prop where
  listed : account.roster.devices?.isSome
  sound : ∀ entry ∈ account.keepers, ∃ device generation?, entry.2.Sound device generation?
  present : ∀ entry ∈ account.keepers, entry.2.availability.trouble ≠ .gone

theorem yields_enlist (device : ListedDevice) :
    (enlist device : Cloud σ _).Yields fun entry =>
      (∃ device generation?, entry.2.Sound device generation?) ∧
        entry.2.availability.trouble ≠ .gone := by
  let started := (Keeper.fresh device (some device.generation)).start
  have sound : started.Sound device (some device.generation) := (Keeper.sound_fresh device _).start
  have refreshes : Keeper.refresh.ConformsFrom
      (Keeper.conduct device (some device.generation) True False) false false started started :=
    Keeper.conducted_refresh started started sound
  refine yields_bind (yields_alone refreshes sound) ?_
  rintro ⟨result, keeper⟩ served
  have served : started.Served keeper := served
  exact ⟨⟨device, _, served.sound sound⟩, served.present Trouble.noConfusion⟩

theorem yields_started (token : Token) (interval? : Option Nat) :
    (started token interval? : Cloud σ _).Yields Founded := by
  refine yields_bind (Roster.yields_refresh interval?) ?_
  rintro ⟨result, roster⟩ listed
  dsimp only
  split
  · trivial
  · next unfailed =>
    refine yields_bind (yields_mapM fun device _ => yields_enlist device) fun keepers enlisted => ?_
    exact ⟨listed unfailed, fun entry member => (enlisted entry member).1,
      fun entry member => (enlisted entry member).2⟩

theorem yields_setUp (entry : AccountEntry) : (setUp entry : Cloud σ _).Yields Founded := by
  refine yields_bind (yields_trivial _) fun token _ => ?_
  split
  · trivial
  · next interval? _ => exact yields_through (yields_started token interval?)

theorem Founded.keeps {account : Account} (founded : account.Founded) : account.Keeps account := by
  intro id
  cases found : account.keepers.lookup id with
  | none => exact .none
  | some keeper =>
    obtain ⟨device, generation?, sound⟩ := founded.sound _ (Fields.mem_of_lookup found)
    refine .some ?_
    rwa [← sound.device, ← sound.generation] at sound

def latest (account : Account) (scene : Scene letters Account Unit) : Fields ListedDevice :=
  ((scene.heard listing?).getLast?.map Roster.byId).getD account.roster.devices

variable {account before after : Account} {chore? : Option Chore}
  {heard? : Option (List ListedDevice)}

theorem Change.devices?_eq (change : before.Change chore? heard? after) :
    after.roster.devices? = (heard?.map Roster.byId).or before.roster.devices? := by
  cases change <;> rfl

/-- A keeper stays as it is, or goes on with the duty that the chore is, or it is marked, and then its
device is not listed. -/
theorem Change.lookup (change : before.Change chore? heard? after) {id : String} {keeper : Keeper}
    (found : before.keepers.lookup id = some keeper) :
    ∃ later, after.keepers.lookup id = some later ∧
      (later = keeper ∨ (∃ duty, chore? = some (.duty id duty) ∧ duty.Stretch keeper later) ∨
        later = keeper.markGone ∧ after.roster.devices.has id = false) := by
  have marked (account : Account) (same : account.keepers = before.keepers) :
      ∃ later, account.markRemoved.keepers.lookup id = some later ∧
        (later = keeper ∨ (∃ duty, chore? = some (.duty id duty) ∧ duty.Stretch keeper later) ∨
          later = keeper.markGone ∧ account.roster.devices.has id = false) := by
    rw [lookup_markRemoved, same, found]
    refine ⟨_, rfl, ?_⟩
    cases listed : account.roster.devices.has id with
    | true => exact .inl rfl
    | false => exact .inr (.inr ⟨rfl, rfl⟩)
  cases change with
  | rest => exact ⟨keeper, found, .inl rfl⟩
  | @serve other duty own after acts present stretch =>
    rw [Fields.lookup_put]
    split
    · next same =>
      subst same
      rw [found, Option.some.injEq] at present
      subst present
      exact ⟨after, rfl, .inr (.inl ⟨duty, acts, stretch⟩)⟩
    · exact ⟨keeper, found, .inl rfl⟩
  | fail failure => exact ⟨keeper, found, .inl rfl⟩
  | remind failure => exact marked _ rfl
  | list devices => exact marked _ rfl

theorem latest_move (account : Account) (scene : Scene letters Account Unit)
    (step : Move letters Chore) : account.latest (scene.move Chore.activity step) =
      (((scene.cue? step).bind listing?).map Roster.byId).getD (account.latest scene) := by
  have deaf : ∀ what, listing? (.asked what) = none := fun _ => rfl
  rw [latest, Scene.heard_move deaf]
  cases (scene.cue? step).bind listing? with
  | none => simp [latest]
  | some devices => simp

structure Goes (account : Account) (chores : List Chore) (scene : Scene letters Account Unit) :
    Prop where
  follows : scene.Follows account.law chores
  listed : scene.state.roster.devices? = some (account.latest scene)

def actor? (account : Account) (moves : List (Move letters Chore)) (step : Move letters Chore) :
    Option Chore :=
  ((Scene.play Chore.activity account moves).task? step).bind fun task =>
    (entered (moves ++ [step]))[task]?

section Play

variable {moves : List (Move letters Chore)}

theorem Goes.step (goes : account.Goes (entered moves) (Scene.play Chore.activity account moves))
    (step : Move letters Chore) :
    (Scene.play Chore.activity account moves).state.Change (account.actor? moves step)
        (((Scene.play Chore.activity account moves).cue? step).bind listing?)
        (Scene.play Chore.activity account (moves ++ [step])).state ∧
      account.Goes (entered (moves ++ [step]))
        (Scene.play Chore.activity account (moves ++ [step])) := by
  obtain ⟨change, follows⟩ := goes.follows.move (fun chore _ keeps => chore.lawful_activity keeps) step
  rw [← entered_append] at change follows
  rw [Scene.play_concat]
  refine ⟨change, follows, ?_⟩
  rw [change.devices?_eq, latest_move, goes.listed]
  cases ((Scene.play Chore.activity account moves).cue? step).bind listing? <;> rfl

theorem goes_play (founded : account.Founded) (moves : List (Move letters Chore)) :
    account.Goes (entered moves) (Scene.play Chore.activity account moves) := by
  induction moves using List.reverseRecOn with
  | nil =>
    refine ⟨⟨founded.keeps, rfl, fun task stage found => ?_⟩, ?_⟩
    · simp [Scene.play] at found
    · obtain ⟨devices, listed⟩ := Option.isSome_iff_exists.1 founded.listed
      simp [Scene.play, latest, Scene.heard, Roster.devices, listed]
  | append_singleton moves step ih => exact (ih.step step).2

end Play

/-- An account is set up, and then its chores are done in any order and interleaved in any way. No
keeper is marked in the beginning, and the roster always holds the latest listing. From one move to
the next a keeper goes on with its duties, none of which marks it, or it is marked while its device is
not listed. What is not a listing keeps the latest one, and a listing marks at once all keepers whose
devices are not on it, and changes no other. -/
theorem removed_play (others : Surroundings cloud σ ω) (entry : AccountEntry) (state : σ) (world : ω)
    (account : Account) (setUp : ((setUp entry).among others state world).result = .ok account)
    (moves : List (Move letters Chore)) (step : Move letters Chore) :
    let before := Scene.play Chore.activity account moves
    let after := before.move Chore.activity step
    let heard? := (before.cue? step).bind listing?
    (∀ entry ∈ account.keepers, entry.2.availability.trouble ≠ .gone) ∧
    after.state.roster.devices? = some (account.latest after) ∧
    (∀ id keeper, before.state.keepers.lookup id = some keeper →
      ∃ later, after.state.keepers.lookup id = some later ∧
        (keeper.Served later ∧
            (keeper.availability.trouble ≠ .gone → later.availability.trouble ≠ .gone) ∨
          later = keeper.markGone ∧ (account.latest after).has id = false)) ∧
    (heard? = none → account.latest after = account.latest before) ∧
    ∀ devices, heard? = some devices → account.latest after = Roster.byId devices ∧
      ∀ id, after.state.keepers.lookup id = (before.state.keepers.lookup id).map fun keeper =>
        if devices.any (·.id = id) then keeper else { keeper with availability := .removed } := by
  intro before after heard?
  have founded : account.Founded := result_of_yields (yields_setUp entry) setUp
  have goes := goes_play founded moves
  obtain ⟨change, goes'⟩ := goes.step step
  rw [Scene.play_concat] at change goes'
  have change : before.state.Change (account.actor? moves step) heard? after.state := change
  have listed : after.state.roster.devices? = some (account.latest after) := goes'.listed
  have latest : account.latest after = (heard?.map Roster.byId).getD (account.latest before) :=
    latest_move account before step
  refine ⟨founded.present, listed, fun id keeper found => ?_, fun deaf => ?_, fun devices hears => ?_⟩
  · obtain ⟨later, present, goesOn⟩ := change.lookup found
    refine ⟨later, present, ?_⟩
    rcases goesOn with rfl | ⟨duty, -, stretch⟩ | ⟨marked, unlisted⟩
    · exact .inl ⟨.refl, fun present => present⟩
    · exact .inl ⟨stretch.served, stretch.served.present⟩
    · rw [Roster.devices, listed] at unlisted
      exact .inr ⟨marked, unlisted⟩
  · rw [latest, deaf]
    rfl
  · refine ⟨by rw [latest, hears]; rfl, fun id => ?_⟩
    rw [hears] at change
    generalize after.state = later at change
    cases change with
    | list =>
      rw [relisted, lookup_markRemoved]
      change Option.map (fun keeper => if (Roster.byId devices).has id then _ else _) _ = _
      rw [Roster.has_byId]
      rfl

def ownedEntry : AccountEntry where
  id := "entry"
  data := ["access_token", "user_number", "api_root_v1", "api_root_v2", "country", "language"].map
    fun key => (key, .text "https://second.example")

def ownedReplies : Replies cloud
  | .token => .ok Call.sampleToken
  | .number => .ok ⟨0⟩
  | .request _ => .ok (.answered 200
      "\x7b\"resultCode\":\"0000\",\"result\":\x7b\"item\":[\x7b\"deviceId\":\"washer\",\"deviceType\":201\x7d]\x7d\x7d")
  | .pause _ => .ok ()

def ownedSetUp : Except Failure Account :=
  ((setUp ownedEntry : Cloud Unit Account).among
    (.alone fun what (_ : Unit) => (ownedReplies what, ())) () ()).result

def owned : Account :=
  ownedSetUp.toOption.getD { token := Call.sampleToken, roster := { interval? := none } }

theorem owned_setUp : ownedSetUp = .ok owned := by
  have ended : ownedSetUp.toOption.isSome = true := by decide +kernel
  unfold owned
  cases result : ownedSetUp with
  | ok account => rfl
  | error failure =>
    rw [result] at ended
    cases ended

def soldReplies (answer : Except Failure Reply) : Replies letters
  | .roster .number => .ok ⟨0⟩
  | .roster (.request _) => answer
  | _ => .error (.foreign "OSError" "")

def soldMoves : List (Move letters Chore) × Move letters Chore :=
  let failed := soldReplies (.error (.foreign "OSError" ""))
  let sold := soldReplies (.ok (.answered 200
    "\x7b\"resultCode\":\"0000\",\"result\":\x7b\"item\":[]\x7d\x7d"))
  ([.enter .refresh, .answer 0 failed, .answer 0 failed, .enter .refresh, .answer 1 sold],
    .answer 1 sold)

theorem removed_sold :
    let before := Scene.play Chore.activity owned soldMoves.1
    let after := before.move Chore.activity soldMoves.2
    (before.state.keepers.lookup "washer").map (·.availability.trouble) = some .communication ∧
      (after.state.keepers.lookup "washer").map (·.availability) = some .removed := by
  have heard : ((Scene.play Chore.activity owned soldMoves.1).cue? soldMoves.2).bind listing? =
      some [] := by decide +kernel
  have present : ((Scene.play Chore.activity owned soldMoves.1).state.keepers.lookup "washer").map
      (·.availability.trouble) = some .communication := by decide +kernel
  obtain ⟨-, -, -, -, listing⟩ := removed_play (.alone fun what (_ : Unit) => (ownedReplies what, ()))
    ownedEntry () () owned owned_setUp soldMoves.1 soldMoves.2
  obtain ⟨-, marked⟩ := listing [] heard
  refine ⟨present, ?_⟩
  rw [marked]
  cases found : (Scene.play Chore.activity owned soldMoves.1).state.keepers.lookup "washer" with
  | none => simp [found] at present
  | some keeper => rfl

end Account

end ApplianceCloud
