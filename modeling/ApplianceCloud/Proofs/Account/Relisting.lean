import ApplianceCloud.Account.Basic
import ApplianceCloud.Proofs.Activity
import ApplianceCloud.Proofs.Interleaving.Stretch
import ApplianceCloud.Proofs.Keeper.Reporting

/-!
# An account among its keepers

The roster of an account is refreshed while its keepers do their duties. `Account.Change` has all that
can become of the account from one wait to the next: nothing, the writes of one keeper's duty, a
failure that is remembered, with or without the removed devices being marked anew, or a new listing.
A new listing comes exactly with the answer that brought it (`Chore.lawful_activity`).
-/

namespace ApplianceCloud

open Activity

variable {α β : Type}

namespace Fields

theorem put_put (fields : Fields α) (key : String) (old value : α) :
    (fields.put key old).put key value = fields.put key value := by
  induction fields with
  | nil => simp [put]
  | cons field rest ih =>
    by_cases here : field.1 = key
    · simp [put, here]
    · simp [put, here, ih]

theorem put_of_lookup {fields : Fields α} {key : String} {value : α}
    (found : fields.lookup key = some value) : fields.put key value = fields := by
  induction fields with
  | nil => cases found
  | cons field rest ih =>
    obtain ⟨name, old⟩ := field
    by_cases here : name = key
    · simp_all [put]
    · rw [List.lookup_cons, beq_eq_false_iff_ne.2 (Ne.symm here)] at found
      simp [put, here, ih found]

end Fields

/-! ## Letters -/

/-- What is asked of the cloud, signed by the roster or by a keeper, or of the lock of a device. -/
inductive Letter where
  | roster (what : CloudCall)
  | keeper (id : String) (what : CloudCall)
  | turn (id : String)

abbrev letters : Interface where
  Call := Letter
  Answer
    | .roster what => cloud.Answer what
    | .keeper _ what => cloud.Answer what
    | .turn _ => Unit

def listing? : Occurrence letters → Option (List ListedDevice)
  | .answered (.roster (.request request)) (.ok reply) =>
      ((Envelope.ofReply .second request.url reply).bind Cloud.devicesOf).toOption
  | _ => none

def Activity.signed {σ : Type} (id : String) : Cloud σ α → Activity letters σ α
  | done result => done result
  | look next => look fun state => (next state).signed id
  | write state next => write state (next.signed id)
  | call what next => call (I := letters) (.keeper id what) fun answer => (next answer).signed id
  | lock next => call (I := letters) (.turn id) fun _ => next.signed id
  | unlock next => next.signed id

namespace Account

def say (token? : Option Token) : (what : CloudCall) → Activity letters Account (cloud.Answer what)
  | .token => match token? with
    | some token => done (.ok token)
    | none => call (I := letters) (.roster .token) done
  | .number => call (I := letters) (.roster .number) done
  | .request request => call (I := letters) (.roster (.request request)) done
  | .pause seconds => call (I := letters) (.roster (.pause seconds)) done

def relist : Cloud Account Unit := do
  if ← onRoster Roster.refresh then Activity.modify markRemoved

def attend (id : String) (duty : Keeping Unit) : Activity letters Account Unit :=
  look fun account => match account.keepers.lookup id with
    | none => fail (.shape (.missingKey id))
    | some keeper => (duty.signed id).onPart (fun account => (account.keepers.lookup id).getD keeper)
        fun keeper account => { account with keepers := account.keepers.put id keeper }

end Account

/-- What is done again and again for an account: its roster is refreshed, with the token of the
account or with one that is asked for, and its keepers do their duties. -/
inductive Chore where
  | refresh
  | relist
  | duty (id : String) (duty : Keeper.Duty)

def Chore.activity : Chore → Activity letters Account Unit
  | refresh => Account.refresh.through (Account.say none)
  | relist => Account.relist.through (Account.say none)
  | duty id task => Account.attend id task.activity

/-! ## Changes -/

namespace Account

def failed (failure : Failure) (account : Account) : Account :=
  { account with roster := { account.roster with lastFailure? := some failure } }

def relisted (devices : List ListedDevice) (account : Account) : Account :=
  markRemoved { account with
    roster := { account.roster with devices? := some (Roster.byId devices), lastFailure? := none } }

/-- What becomes of an account from one wait to the next, by the chore that goes on and by the devices
that it heard of. -/
inductive Change (before : Account) (chore? : Option Chore) :
    Option (List ListedDevice) → Account → Prop where
  | rest : Change before chore? none before
  | serve {id duty keeper after} (acts : chore? = some (.duty id duty))
      (found : before.keepers.lookup id = some keeper) (stretch : duty.Stretch keeper after) :
      Change before chore? none { before with keepers := before.keepers.put id after }
  | fail (failure : Failure) : Change before chore? none (before.failed failure)
  | remind (failure : Failure) : Change before chore? none (before.failed failure).markRemoved
  | list (devices : List ListedDevice) : Change before chore? (some devices) (before.relisted devices)

theorem lookup_markRemoved (account : Account) (id : String) :
    account.markRemoved.keepers.lookup id = (account.keepers.lookup id).map fun keeper =>
      if account.roster.devices.has id then keeper else keeper.markGone := by
  unfold markRemoved
  dsimp only
  induction account.keepers with
  | nil => rfl
  | cons entry rest ih =>
    rw [List.map_cons, List.lookup_cons, List.lookup_cons]
    cases same : id == entry.1 with
    | true => rw [eq_of_beq same]; rfl
    | false => exact ih

def Keeps (origin account : Account) : Prop :=
  ∀ id, Option.Rel (fun original keeper => keeper.Sound original.device original.generation?)
    (origin.keepers.lookup id) (account.keepers.lookup id)

theorem Keeps.of_lookup {origin account : Account} (keeps : origin.Keeps account) {id : String}
    {original : Keeper} (known : origin.keepers.lookup id = some original) :
    ∃ keeper, account.keepers.lookup id = some keeper ∧
      keeper.Sound original.device original.generation? := by
  have kept := keeps id
  rw [known] at kept
  generalize account.keepers.lookup id = keeper? at kept ⊢
  cases kept with
  | some sound => exact ⟨_, rfl, sound⟩

theorem Keeps.of_present {origin account : Account} (keeps : origin.Keeps account) {id : String}
    {keeper : Keeper} (present : account.keepers.lookup id = some keeper) :
    ∃ original, origin.keepers.lookup id = some original ∧
      keeper.Sound original.device original.generation? := by
  have kept := keeps id
  rw [present] at kept
  generalize origin.keepers.lookup id = original? at kept ⊢
  cases kept with
  | some sound => exact ⟨_, rfl, sound⟩

theorem Keeps.markRemoved {origin account : Account} (keeps : origin.Keeps account) :
    origin.Keeps account.markRemoved := by
  intro id
  rw [lookup_markRemoved]
  have kept := keeps id
  generalize origin.keepers.lookup id = original?, account.keepers.lookup id = keeper? at kept ⊢
  cases kept with
  | none => exact .none
  | some sound =>
    refine .some ?_
    split
    · exact sound
    · exact (@Keeper.Write.remove True _ _ trivial).sound sound

theorem Keeps.change {origin before after : Account} {chore? : Option Chore}
    {devices? : Option (List ListedDevice)} (keeps : origin.Keeps before)
    (change : before.Change chore? devices? after) : origin.Keeps after := by
  cases change with
  | rest => exact keeps
  | @serve id duty keeper after acts found stretch =>
    intro other
    rw [Fields.lookup_put]
    split
    · next same =>
      subst same
      have sound := keeps other
      rw [found] at sound
      generalize origin.keepers.lookup other = original? at sound ⊢
      cases sound with
      | some sound => exact .some (stretch.served.sound sound)
    · exact keeps other
  | fail failure => exact keeps
  | remind failure =>
    have failed : origin.Keeps (before.failed failure) := keeps
    exact failed.markRemoved
  | list devices => exact Keeps.markRemoved keeps

def law (origin : Account) : Law letters Chore Account where
  inv := origin.Keeps
  step chore? cue? before after := before.Change chore? (cue?.bind listing?) after
  inv_of_step change keeps := keeps.change change
  step_refl _ _ := .rest

/-! ## Refreshes -/

def asking (token? : Option Token) (next : Except Failure Token → Activity letters Account α) :
    Activity letters Account α :=
  match token? with
  | some token => next (.ok token)
  | none => call (I := letters) (.roster .token) next

def fetched (token : Token)
    (next : Except Failure (Fields ListedDevice) → Activity letters Account α) :
    Activity letters Account α :=
  match Request.addressBelow (token.root .second) Cloud.listingPath with
  | .error failure => next (.error failure)
  | .ok url => call (I := letters) (.roster .number) fun
    | .error failure => next (.error failure)
    | .ok number => call (I := letters) (.roster (.request
        { method := .get, url, headers := Request.secondHeaders token number })) fun reply =>
        next ((reply >>= Envelope.ofReply .second url >>= Cloud.devicesOf).map Roster.byId)

def listed (token? : Option Token)
    (next : Except Failure (Fields ListedDevice) → Activity letters Account α) :
    Activity letters Account α :=
  asking token? fun
    | .error failure => next (.error failure)
    | .ok _ => asking token? fun
      | .error failure => next (.error failure)
      | .ok token => fetched token next

def concluded (token? : Option Token) (before : Roster)
    (result : Except Failure (Fields ListedDevice)) : Activity letters Account Unit :=
  let settle : Cloud Roster Bool := match result with
    | .ok devices => do
        Activity.modify fun roster => { roster with devices? := some devices, lastFailure? := none }
        return true
    | .error cause => do
        Activity.modify fun roster => { roster with lastFailure? := some (Roster.failureOf cause) }
        return before.lastFailure?.isNone
  let told : Cloud Account Unit := do if ← onRoster settle then Activity.modify markRemoved
  told.through (say token?)

def fetching (token : Token) : Cloud Roster (Fields ListedDevice) :=
  let envelope : Cloud Roster (Fields Document) := do
    let url ← Request.addressBelow (token.root .second) Cloud.listingPath
    let number ← Cloud.newNumber
    let reply ← Cloud.request { method := .get, url, headers := Request.secondHeaders token number }
    Envelope.ofReply .second url reply
  let devices : Cloud Roster (List ListedDevice) := do Cloud.devicesOf (← envelope)
  do return Roster.byId (← devices)

theorem through_fetching (token? : Option Token) (token : Token)
    (next : Except Failure (Fields ListedDevice) → Activity letters Account α) :
    ((onRoster (fetching token)).through (say token?)).attempt.bind next = fetched token next := by
  unfold fetching fetched
  cases Request.addressBelow (token.root .second) Cloud.listingPath with
  | error failure => rfl
  | ok url =>
    refine congrArg (call (I := letters) _) (funext fun number => ?_)
    cases number with
    | error failure => rfl
    | ok number =>
      refine congrArg (call (I := letters) _) (funext fun reply => ?_)
      cases reply with
      | error failure => rfl
      | ok reply =>
        change Activity.bind (attempt (through _ (onPart _ _ (Activity.bind (Activity.bind
          (done (Envelope.ofReply .second url reply)) _) _)))) _ =
            next (Except.map _ (Except.bind (Envelope.ofReply .second url reply) _))
        cases Envelope.ofReply .second url reply with
        | error failure => rfl
        | ok envelope =>
          change Activity.bind (attempt (through _ (onPart _ _ (Activity.bind
            (done (Cloud.devicesOf envelope)) _)))) _ = next (Except.map _ (Cloud.devicesOf envelope))
          cases Cloud.devicesOf envelope <;> rfl

theorem through_listing (token? : Option Token)
    (next : Except Failure (Fields ListedDevice) → Activity letters Account α) :
    ((onRoster (do let _ ← Cloud.token; return Roster.byId (← Cloud.listDevices))).through
      (say token?)).attempt.bind next = listed token? next := by
  cases token? with
  | some token => exact through_fetching (some token) token next
  | none =>
    refine congrArg (call (I := letters) _) (funext fun first => ?_)
    cases first with
    | error failure => rfl
    | ok token =>
      refine congrArg (call (I := letters) _) (funext fun second => ?_)
      cases second with
      | error failure => rfl
      | ok token => exact through_fetching none token next

theorem through_relist (token? : Option Token) : relist.through (say token?) = look fun account =>
    if account.roster.isShutDown then done (.ok ())
    else lock (listed token? fun result => unlock (concluded token? account.roster result)) := by
  refine congrArg look (funext fun account => ?_)
  obtain ⟨token, ⟨interval?, devices?, lastFailure?, isShutDown⟩, keepers⟩ := account
  cases isShutDown with
  | true => rfl
  | false =>
    -- The listing is under the lock and its failure is caught, which `bind` has to be moved past.
    refine Eq.trans ?_ (congrArg lock (through_listing token? _))
    refine congrArg lock ?_
    simp only [onPart_bind, onPart_attempt, attempt_bind, bind_assoc]
    rw [through_bind (I := cloud) (say token?), through_attempt (I := cloud) (say token?)]
    rfl

theorem through_refresh : refresh.through (say none) =
    look fun account => relist.through (say (some account.token)) := by
  refine congrArg look (funext fun account => ?_)
  refine (through_through (Cloud.answerWith account.token) (say none) relist).trans ?_
  refine congrArg (fun perform => relist.through perform) (funext fun what => ?_)
  cases what <;> rfl

variable {origin account : Account} {chore? : Option Chore}

theorem lawful_concluded {token? : Option Token} {before : Roster}
    {result : Except Failure (Fields ListedDevice)} {cue? : Option (Occurrence letters)}
    (heard : (cue?.bind listing?).map Roster.byId = result.toOption) :
    (concluded token? before result).Lawful (law origin) chore? cue? account account := by
  cases result with
  | ok devices =>
    obtain ⟨items, hears, rfl⟩ := Option.map_eq_some_iff.1 heard
    change account.Change chore? (cue?.bind listing?) _
    rw [hears]
    exact .list items
  | error cause =>
    have deaf : cue?.bind listing? = none := Option.map_eq_none_iff.1 heard
    obtain ⟨interval?, devices?, lastFailure?, isShutDown⟩ := before
    cases lastFailure? with
    | none =>
      change account.Change chore? (cue?.bind listing?) _
      rw [deaf]
      exact .remind (Roster.failureOf cause)
    | some failure =>
      change account.Change chore? (cue?.bind listing?) _
      rw [deaf]
      exact .fail (Roster.failureOf cause)

theorem rest_of_deaf {cue? : Option (Occurrence letters)} (deaf : cue?.bind listing? = none) :
    (law origin).step chore? cue? account account := by
  change account.Change chore? (cue?.bind listing?) account
  rw [deaf]
  exact .rest

section Listed

variable {next : Except Failure (Fields ListedDevice) → Activity letters Account α}
  (ends : ∀ cue? result (account : Account),
    (cue?.bind listing?).map Roster.byId = result.toOption →
      (next result).Lawful (law origin) chore? cue? account account)

include ends

theorem lawful_fetched {cue? : Option (Occurrence letters)} (deaf : cue?.bind listing? = none)
    (token : Token) : (fetched token next).Lawful (law origin) chore? cue? account account := by
  unfold fetched
  cases Request.addressBelow (token.root .second) Cloud.listingPath with
  | error failure => exact ends cue? (.error failure) account (by rw [deaf]; rfl)
  | ok url =>
    refine ⟨rest_of_deaf deaf, fun number account _ => ?_⟩
    cases number with
    | error failure => exact ends _ (.error failure) account rfl
    | ok number =>
      refine ⟨.rest, fun reply account _ => ends _ _ account ?_⟩
      cases reply with
      | error failure => rfl
      | ok reply =>
        change Option.map _ (Except.toOption (Except.bind (Envelope.ofReply .second url reply) _)) =
          Except.toOption (Except.map _ (Except.bind (Envelope.ofReply .second url reply) _))
        cases Except.bind (Envelope.ofReply .second url reply) Cloud.devicesOf <;> rfl

theorem lawful_listed {token? : Option Token} :
    (listed token? next).Lawful (law origin) chore? none account account := by
  unfold listed asking
  cases token? with
  | some token => exact lawful_fetched ends rfl token
  | none =>
    refine ⟨.rest, fun first account _ => ?_⟩
    cases first with
    | error failure => exact ends _ (.error failure) account rfl
    | ok token =>
      refine ⟨.rest, fun second account _ => ?_⟩
      cases second with
      | error failure => exact ends _ (.error failure) account rfl
      | ok token => exact lawful_fetched ends rfl token

end Listed

theorem lawful_relist (token? : Option Token) :
    (relist.through (say token?)).Lawful (law origin) chore? none account account := by
  rw [through_relist]
  change Lawful _ _ (if account.roster.isShutDown then _ else _) none account account
  split
  · exact Change.rest
  · have inside (state : Account) : (listed token? fun result =>
        unlock (concluded token? account.roster result)).Lawful (law origin) chore? none state state := by
      refine lawful_listed fun cue? result state heard => ?_
      exact lawful_concluded heard
    exact ⟨inside account, .rest, fun state _ => inside state⟩

/-! ## Duties -/

/-- Whether what is left of a duty is lawful when it has made a keeper of the one at the start. -/
def Serves (origin : Account) (fallback : Keeper) (id : String) (duty : Keeper.Duty)
    (activity : Keeping α) (cue? : Option (Occurrence letters)) (start : Account) (keeper : Keeper) :
    Prop :=
  ((activity.signed id).onPart (fun account => (account.keepers.lookup id).getD fallback)
    fun keeper account => { account with keepers := account.keepers.put id keeper }).Lawful (law origin)
      (some (.duty id duty)) cue? start { start with keepers := start.keepers.put id keeper }

section Serves

variable {fallback before keeper original : Keeper} {id : String} {duty : Keeper.Duty} {start : Account}
  {cue? : Option (Occurrence letters)}

theorem serves_look {next : Keeper → Keeping α} :
    Serves origin fallback id duty (look next) cue? start keeper ↔
      Serves origin fallback id duty (next keeper) cue? start keeper := by
  have read : ((start.keepers.put id keeper).lookup id).getD fallback = keeper := by
    rw [Fields.lookup_put, if_pos rfl]
    rfl
  change Lawful _ _ (onPart _ _ ((next (((start.keepers.put id keeper).lookup id).getD
    fallback)).signed id)) _ _ _ ↔ _
  rw [read]
  rfl

theorem serves_write {next : Keeping α} {after : Keeper} :
    Serves origin fallback id duty (write after next) cue? start keeper ↔
      Serves origin fallback id duty next cue? start after := by
  change Lawful _ _ _ _ _ { start with keepers := (start.keepers.put id keeper).put id after } ↔ _
  rw [Fields.put_put]
  rfl

theorem serves_gets_bind {f : Keeper → β} {next : β → Keeping α} :
    Serves origin fallback id duty (Activity.gets f >>= next) cue? start keeper ↔
      Serves origin fallback id duty (next (f keeper)) cue? start keeper :=
  serves_look

theorem serves_modify_bind {f : Keeper → Keeper} {next : Unit → Keeping α} :
    Serves origin fallback id duty (Activity.modify f >>= next) cue? start keeper ↔
      Serves origin fallback id duty (next ()) cue? start (f keeper) :=
  serves_look.trans serves_write

theorem step_of_stretch (deaf : cue?.bind listing? = none)
    (found : start.keepers.lookup id = some before) (stretch : duty.Stretch before keeper) :
    (law origin).step (some (.duty id duty)) cue? start
      { start with keepers := start.keepers.put id keeper } := by
  change start.Change _ (cue?.bind listing?) _
  rw [deaf]
  exact .serve rfl found stretch

theorem serves_done {result : Except Failure α} (deaf : cue?.bind listing? = none)
    (found : start.keepers.lookup id = some before) (stretch : duty.Stretch before keeper) :
    Serves origin fallback id duty (done result : Keeping α) cue? start keeper :=
  step_of_stretch deaf found stretch

theorem serves_wait {what : Letter} {answer : Except Failure (letters.Answer what)}
    {account : Account} {next : Keeping α} (known : origin.keepers.lookup id = some original)
    (keeps : origin.Keeps account)
    (serves : ∀ later : Keeper, later.Sound original.device original.generation? →
      account.keepers.lookup id = some later →
      Serves origin fallback id duty next (some (.answered what answer)) account later) :
    ((next.signed id).onPart (fun account => (account.keepers.lookup id).getD fallback)
      fun keeper account => { account with keepers := account.keepers.put id keeper }).Lawful
        (law origin) (some (.duty id duty)) (some (.answered what answer)) account account := by
  obtain ⟨later, present, sound⟩ := keeps.of_lookup known
  have serves := serves later sound present
  rwa [Serves, Fields.put_of_lookup present] at serves

/-- A duty goes on without a report for as long as it conforms to that, and from there with what is
left of it. -/
theorem serves_attempt_bind {activity : Keeping β} {next : Except Failure β → Keeping α}
    {between holding : Bool} {seen : Keeper} (known : origin.keepers.lookup id = some original)
    (conforms : activity.ConformsFrom
      (Keeper.conduct original.device original.generation? False False) between holding seen keeper)
    (deaf : cue?.bind listing? = none) (found : start.keepers.lookup id = some before)
    (quiet : before.Unnoticed keeper)
    (ends : ∀ result (cue? : Option (Occurrence letters)) (start : Account) (before keeper : Keeper),
      cue?.bind listing? = none → start.keepers.lookup id = some before →
      before.Unnoticed keeper → Serves origin fallback id duty (next result) cue? start keeper) :
    Serves origin fallback id duty (activity.attempt.bind next) cue? start keeper := by
  induction activity generalizing holding seen keeper start before cue? with
  | done result => exact ends result cue? start before keeper deaf found quiet
  | look next ih => exact serves_look.2 (ih keeper conforms deaf found quiet)
  | write after next ih =>
    exact serves_write.2 (ih conforms.2 deaf found (quiet.trans conforms.1.unnoticed))
  | call what next ih =>
    refine ⟨step_of_stretch deaf found (.quiet quiet), fun answer account keeps => ?_⟩
    refine serves_wait known keeps fun later sound present => ?_
    exact ih answer (conforms.2 answer later sound) rfl present (.refl later)
  | lock next ih =>
    cases holding with
    | true => exact conforms.elim
    | false =>
      refine ⟨step_of_stretch deaf found (.quiet quiet), fun answer account keeps => ?_⟩
      refine serves_wait known keeps fun later sound present => ?_
      exact ih (conforms later sound) rfl present (.refl later)
  | unlock next ih =>
    cases holding with
    | false => exact conforms.elim
    | true => exact ih conforms deaf found quiet

theorem serves_modify {f : Keeper → Keeper} (deaf : cue?.bind listing? = none)
    (found : start.keepers.lookup id = some before) (stretch : duty.Stretch before (f keeper)) :
    Serves origin fallback id duty (Activity.modify f : Keeping Unit) cue? start keeper :=
  serves_look.2 (serves_write.2 (serves_done deaf found stretch))

theorem serves_concluded (deaf : cue?.bind listing? = none)
    (found : start.keepers.lookup id = some before) (quiet : before.Unnoticed keeper)
    (result : Except Failure (Option Status)) :
    Serves origin fallback id .refresh (Keeper.concluded result) cue? start keeper := by
  rcases result with failure | _ | status
  · change Serves _ _ _ _ (if failure.isOwn then _ else _) _ _ _
    split
    · next own =>
      rw [Keeper.note, serves_modify_bind]
      exact serves_modify deaf found (.reported quiet (.unreachable own))
    · have failed := quiet.trans (Keeper.Write.fail failure).unnoticed
      exact serves_modify deaf found (.quiet failed)
  · have succeeded := quiet.trans (Keeper.Write.succeed none).unnoticed
    exact serves_modify deaf found (.quiet succeeded)
  · change Serves _ _ _ _ (Keeper.note _ >>= _) _ _ _
    rw [Keeper.note, serves_modify_bind]
    exact serves_modify deaf found (.reported quiet (.polled status))

theorem serves_activity (known : origin.keepers.lookup id = some original)
    (found : start.keepers.lookup id = some keeper)
    (sound : keeper.Sound original.device original.generation?) :
    Serves origin fallback id duty duty.activity none start keeper := by
  have deaf : (none : Option (Occurrence letters)).bind listing? = none := rfl
  cases duty with
  | refresh =>
    rw [Keeper.activity_refresh, serves_look]
    split
    · exact serves_done deaf found (.quiet (.refl keeper))
    · refine serves_attempt_bind known (Keeper.conducted_poll keeper keeper sound) deaf found
        (.refl keeper) ?_
      intro result cue? start before keeper deaf found quiet
      exact serves_concluded deaf found quiet result
  | send command =>
    exact serves_modify deaf found (Keeper.stretch_send command)
  | start =>
    have started : keeper.Unnoticed keeper.start := Keeper.Write.start.unnoticed
    exact serves_modify deaf found (.quiet started)
  | work =>
    refine serves_gets_bind.2 ?_
    split
    · exact serves_done deaf found (.quiet (.refl keeper))
    · next command queue next =>
      have taken : keeper.Unnoticed { keeper with queue } := (Keeper.Write.take next).unnoticed
      refine serves_look.2 (serves_write.2 ?_)
      refine serves_attempt_bind known (Keeper.conducted_process keeper _ (sound.take next)) deaf found
        taken ?_
      intro outcome cue? start before keeper deaf found quiet
      exact serves_modify deaf found (Keeper.stretch_finish quiet outcome)
  | forceStop =>
    rw [← attempt_bind_done (Keeper.Duty.activity .forceStop)]
    refine serves_attempt_bind known (Keeper.conducted_stopWatching keeper keeper sound) deaf found
      (.refl keeper) ?_
    intro result cue? start before keeper deaf found quiet
    exact serves_done deaf found (.quiet quiet)

end Serves

theorem lawful_attend (id : String) (duty : Keeper.Duty) (keeps : origin.Keeps account) :
    (attend id duty.activity).Lawful (law origin) (some (.duty id duty)) none account account := by
  change Lawful _ _ (match account.keepers.lookup id with
    | none => fail (.shape (.missingKey id))
    | some keeper => _) none account account
  split
  · exact Change.rest
  · next keeper present =>
    obtain ⟨original, known, sound⟩ := keeps.of_present present
    have serves : Serves origin keeper id duty duty.activity none account keeper :=
      serves_activity known present sound
    rwa [Serves, Fields.put_of_lookup present] at serves

end Account

theorem Chore.lawful_activity {origin account : Account} (keeps : origin.Keeps account)
    (chore : Chore) : chore.activity.Lawful origin.law (some chore) none account account := by
  cases chore with
  | refresh =>
    change Lawful _ _ (Account.refresh.through (Account.say none)) none account account
    rw [Account.through_refresh]
    exact Account.lawful_relist (some account.token)
  | relist => exact Account.lawful_relist none
  | duty id duty => exact Account.lawful_attend id duty keeps

end ApplianceCloud
