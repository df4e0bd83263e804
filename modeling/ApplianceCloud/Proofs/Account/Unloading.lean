import ApplianceCloud.Account.Home
import ApplianceCloud.Proofs.Cloud.Classification
import ApplianceCloud.Proofs.Keeper.Shutdown

namespace ApplianceCloud

variable {I J : Interface} {σ τ ω α β : Type}

namespace Fields

theorem lookup_append_cons {before : Fields α} {key : String} (absent : key ∉ keys before) (value : α)
    (after : Fields α) : (before ++ (key, value) :: after).lookup key = some value := by
  rw [List.lookup_append, List.lookup_cons, beq_self_eq_true]
  suffices none : before.lookup key = none by rw [none]; rfl
  refine List.lookup_eq_none_iff.2 fun entry member => ?_
  rw [bne_iff_ne]
  rintro rfl
  exact absent (List.mem_map_of_mem member)

theorem put_append_cons {before : Fields α} {key : String} (absent : key ∉ keys before)
    (old value : α) (after : Fields α) :
    put (before ++ (key, old) :: after) key value = before ++ (key, value) :: after := by
  induction before with
  | nil => simp [put]
  | cons entry rest ih =>
    simp only [keys, List.map_cons, List.mem_cons, not_or] at absent
    simp [put, Ne.symm absent.1, ih absent.2]

end Fields

namespace Activity

def Does (result : Except Failure α) : Activity I σ α → List I.Call → Prop
  | done ended, calls => calls = [] ∧ ended = result
  | call what next, other :: rest => other = what ∧ ∀ answer, Does result (next answer) rest
  | _, _ => False

theorem does_bind {activity : Activity I σ α} {next : α → Activity I σ β} {a : α}
    {result : Except Failure β} {calls more : List I.Call} (h : activity.Does (.ok a) calls)
    (rest : (next a).Does result more) : (activity.bind next).Does result (calls ++ more) := by
  induction activity generalizing calls with
  | done ended =>
    obtain ⟨rfl, rfl⟩ := h
    exact rest
  | call what next ih =>
    cases calls with
    | nil => exact h.elim
    | cons other calls => exact ⟨h.1, fun answer => ih answer (h.2 answer)⟩
  | look | write | lock | unlock => exact h.elim

theorem among_of_does {activity : Activity I σ α} {result : Except Failure α} {calls : List I.Call}
    (h : activity.Does result calls) (others : Surroundings I σ ω) (state : σ) (world : ω) :
    (activity.among others state world).result = result ∧
      (activity.among others state world).calls = calls := by
  induction activity generalizing calls state world with
  | done ended => exact ⟨h.2, h.1.symm⟩
  | call what next ih =>
    cases calls with
    | nil => exact h.elim
    | cons other calls =>
      obtain ⟨rfl, h⟩ := h
      obtain ⟨ended, made⟩ := ih _ (h _) (others.reply other state world).2.1
        (others.reply other state world).2.2
      exact ⟨ended, congrArg (other :: ·) made⟩
  | look | write | lock | unlock => exact h.elim

theorem does_then {perform : (what : I.Call) → Activity J τ (I.Answer what)}
    {activity : Activity I τ α} {next : α → Activity I τ β} {state after : τ} {a : α}
    {result : Except Failure (Except Failure β × τ)} {calls more : List J.Call}
    (first : ((activity.through perform).alone state : Activity J σ _).Does (.ok (.ok a, after)) calls)
    (rest : (((next a).through perform).alone after : Activity J σ _).Does result more) :
    (((activity.bind next).through perform).alone state : Activity J σ _).Does result
      (calls ++ more) := by
  rw [through_bind, alone_bind]
  exact does_bind first rest

end Activity

open Activity

def Keeper.stopRequests (keeper : Keeper) (token : Token) : List cloud.Call :=
  match keeper.openWork? with
  | some workId => (Watch.stopRequests token keeper.device.id workId).map .request
  | none => []

namespace Account

variable {token : Token} {account : Account}

theorem does_closing {keeper : Keeper} {next : Cloud Account α} {calls : List cloud.Call}
    {result : Except Failure (Except Failure α × Account)}
    (h : ((next.through (Cloud.answerWith token)).alone account : Cloud σ _).Does result calls) :
    ((((keeper.closing : Cloud Account Unit).attempt.bind fun _ => next).through
      (Cloud.answerWith token)).alone account : Cloud σ _).Does result
      (keeper.stopRequests token ++ calls) := by
  unfold Keeper.closing Keeper.stopRequests
  cases keeper.openWork? with
  | none => exact h
  | some workId =>
    dsimp only
    rw [Watch.closeWork_eq]
    unfold Watch.stopRequests
    change Does _ (alone (through _ (Activity.bind (attempt
      (Watch.closeWith token keeper.device.id workId)) _)) account) _
    unfold Watch.closeWith
    cases Request.addressBelow (token.root .first) Watch.workPath with
    | error failure => exact h
    | ok url => exact ⟨rfl, fun _ => h⟩

theorem does_onKeeper {device : ListedDevice} {generation? : Option Generation} {id : String}
    {keeper : Keeper} (found : account.keepers.lookup id = some keeper)
    (sound : keeper.Sound device generation?) :
    (((onKeeper id Keeper.shutdown).through (Cloud.answerWith token)).alone account : Cloud σ _).Does
      (.ok (.ok (), { account with keepers := account.keepers.put id keeper.closed }))
      (keeper.stopRequests token) := by
  simp only [onKeeper, onMember, through, alone, found]
  rw [Keeper.shutdown_alone sound, bind_assoc, ← List.append_nil (keeper.stopRequests token)]
  exact does_closing ⟨rfl, rfl⟩

def closed (account : Account) : Account :=
  { account with
    roster := { account.roster with isShutDown := true }
    keepers := account.keepers.mapValues Keeper.closed }

def stopRequests (account : Account) : List cloud.Call :=
  account.keepers.flatMap fun entry => entry.2.stopRequests account.token

/-- A keeper that a history without a refresh in progress left behind. -/
def Rests (keeper : Keeper) : Prop :=
  ∃ device generation? moves, (Service.play device generation? moves).IsCalm ∧
    (Service.play device generation? moves).scene.state = keeper

theorem Rests.sound {keeper : Keeper} (rests : Rests keeper) :
    ∃ device generation?, keeper.Sound device generation? := by
  obtain ⟨device, generation?, moves, -, rfl⟩ := rests
  exact ⟨device, generation?, Service.sound_of_play device generation? moves⟩

theorem does_shutdowns (account : Account) (before rest : Fields Keeper)
    (distinct : (Fields.keys (before ++ rest)).Nodup) (rests : ∀ entry ∈ rest, Rests entry.2) :
    ((((Fields.keys rest).forM fun id => onKeeper id Keeper.shutdown).through
      (Cloud.answerWith token)).alone { account with keepers := before ++ rest } : Cloud σ _).Does
      (.ok (.ok (), { account with keepers := before ++ rest.mapValues Keeper.closed }))
      (rest.flatMap fun entry => entry.2.stopRequests token) := by
  -- The keepers before the rest are closed already, which is what the induction goes through.
  induction rest generalizing before with
  | nil => exact ⟨rfl, rfl⟩
  | cons entry rest ih =>
    obtain ⟨id, keeper⟩ := entry
    obtain ⟨device, generation?, sound⟩ := (rests (id, keeper) List.mem_cons_self).sound
    have absent : id ∉ Fields.keys before := by
      rw [Fields.keys, List.map_append, List.nodup_append] at distinct
      exact fun member => distinct.2.2 id member id List.mem_cons_self rfl
    have found : (before ++ (id, keeper) :: rest).lookup id = some keeper :=
      Fields.lookup_append_cons absent keeper rest
    have put : Fields.put (before ++ (id, keeper) :: rest) id keeper.closed =
        before ++ (id, keeper.closed) :: rest :=
      Fields.put_append_cons absent keeper keeper.closed rest
    let now : Account := { account with keepers := before ++ (id, keeper) :: rest }
    have first : (((onKeeper id Keeper.shutdown).through (Cloud.answerWith token)).alone now :
        Cloud σ _).Does _ _ := does_onKeeper found sound
    have later := ih (before ++ [(id, keeper.closed)]) (by simpa [Fields.keys] using distinct)
      fun entry member => rests entry (.tail _ member)
    refine does_then (I := cloud) (J := cloud) first ?_
    simp only [List.append_assoc, List.singleton_append] at later
    dsimp only [now]
    rw [put]
    exact later

theorem does_shutdown (account : Account) (distinct : account.keepers.keys.Nodup)
    (rests : ∀ entry ∈ account.keepers, Rests entry.2) :
    (Account.shutdown.alone account : Cloud σ _).Does (.ok (.ok (), account.closed))
      account.stopRequests := by
  have all : ((((Fields.keys account.keepers).forM fun id => onKeeper id Keeper.shutdown).through
      (Cloud.answerWith account.token)).alone account : Cloud σ _).Does _ _ :=
    does_shutdowns account [] account.keepers distinct rests
  rw [← List.append_nil account.stopRequests]
  change Does _ (alone (through _ (Activity.bind
    (account.keepers.keys.forM fun id => onKeeper id Keeper.shutdown) _)) account) _
  exact does_then (I := cloud) (J := cloud) all ⟨rfl, rfl⟩

end Account

theorem Home.unload_among (others : Surroundings cloud Home ω) {home : Home} {id : String}
    {account : Account} (found : home.accounts.lookup id = some account)
    (distinct : account.keepers.keys.Nodup) (rests : ∀ entry ∈ account.keepers, Account.Rests entry.2)
    (world : ω) :
    ((Home.unload id).among others home world).result = .ok account.closed ∧
      ((Home.unload id).among others home world).calls = account.stopRequests := by
  have does : (Account.shutdown.alone account : Cloud Home _).Does _ _ :=
    Account.does_shutdown account distinct rests
  obtain ⟨ended, made⟩ := among_of_does does others
    { home with accounts := home.accounts.without id } world
  rw [Home.unload, among_gets_bind]
  simp only [found]
  rw [among_modify_bind, among_bind, Ending.then_of_ok ended]
  exact ⟨rfl, (List.append_nil _).trans made⟩

/-- Whatever a keeper went through, a shutdown with no refresh in progress ends well, whatever the
cloud answers. The worker is gone, no command waits, nothing is in progress, and the report session of
the first generation is at its start; its work, if it knew one, is closed with one attempt. So every
keeper of an account is left, once the account is unloaded. -/
theorem Home.closed_unload :
    (∀ device generation? moves, (Service.play device generation? moves).IsCalm →
      ∀ reply : Replies cloud,
      let before := (Service.play device generation? moves).scene
      let task := before.stages.length
      let after := (Service.play device generation?
        (moves ++ [.enter .shutdown, .answer task reply, .answer task reply])).scene
      after.stages[task]? = some (.ended (.ok ())) ∧
      (∀ stage ∈ after.stages, stage.isOver = true) ∧
      after.state = before.state.closed ∧
      after.trace = before.trace ++
        Scene.exchange task reply (before.state.closingCalls (reply CloudCall.token))) ∧
    (∀ {ω : Type} (others : Surroundings cloud Home ω) (home : Home) (world : ω) id account,
      home.accounts.lookup id = some account → account.keepers.keys.Nodup →
      (∀ entry ∈ account.keepers, Account.Rests entry.2) →
      let ending := (Home.unload id).among others home world
      ending.result = .ok account.closed ∧ ending.calls = account.stopRequests) ∧
    (∀ keeper : Keeper, keeper.closed.queue.isRunning = false ∧ keeper.closed.queue.waiting = [] ∧
      keeper.closed.queue.unfinished = 0 ∧ (keeper.generation? = some .first →
        keeper.closed.session.phase = .idle ∧ keeper.closed.session.workId = "")) := by
  refine ⟨fun device generation? moves calm reply => Service.closed_play calm reply,
    fun others home world id account found distinct rests =>
      Home.unload_among others found distinct rests world, fun keeper => ⟨rfl, rfl, rfl, ?_⟩⟩
  intro first
  simp [Keeper.closed, Keeper.unwatched, first, Watch.Session.fresh]

namespace Service

def blockedDevice : ListedDevice where
  id := "washer"
  name := "Washer"
  modelName := "Model"
  family := .washer
  generation := .first
  capabilityAddress := "https://model.example/"

def blockedReplies (answer : Except Failure Reply) : Replies cloud
  | .token => .ok Call.sampleToken
  | .number => .ok ⟨0⟩
  | .request _ => answer
  | .pause _ => .ok ()

/-- A refresh breaks off and leaves its work open, a command is in flight and has the lock, and
another one waits. -/
def blockedMoves : List (Move cloud Keeper.Errand) :=
  let described : Replies cloud := blockedReplies (.ok (.answered 200
    "\x7b\"Value\":\x7b\x7d,\"Course\":\x7b\x7d,\"ControlWifi\":\x7b\"action\":\x7b\"OperationStart\":\x7b\x7d\x7d\x7d\x7d"))
  let opened : Replies cloud := blockedReplies (.ok (.answered 200
    "\x7b\"lgedmRoot\":\x7b\"returnCd\":\"0000\",\"workId\":\"work\"\x7d\x7d"))
  let broken : Replies cloud := blockedReplies (.error (.foreign "OSError" ""))
  [.enter (.duty .refresh), .answer 0 described, .answer 0 opened, .answer 0 opened,
    .answer 0 opened, .answer 0 broken, .answer 0 broken, .enter (.duty .start),
    .enter (.duty (.send { name := "remote_start" })), .enter (.duty .work),
    .enter (.duty (.send { name := "wake_up" }))]

def blockedAccount : Account where
  token := Call.sampleToken
  roster := { interval? := none }
  keepers := [("washer", (play blockedDevice (some .first) blockedMoves).scene.state)]

theorem closed_blocked :
    let before := (play blockedDevice (some .first) blockedMoves).scene
    let task := before.stages.length
    let reply := blockedReplies (.error (.foreign "TimeoutError" ""))
    let after := (play blockedDevice (some .first)
      (blockedMoves ++ [.enter .shutdown, .answer task reply, .answer task reply])).scene
    let home : Home := { accounts := [("entry", blockedAccount)] }
    let ending := (Home.unload "entry").among (.alone fun what (_ : Unit) => (reply what, ())) home ()
    (before.holder? = some 3 ∧ before.state.queue.waiting.length = 1 ∧
      before.state.openWork? = some "work") ∧
    after.stages[task]? = some (.ended (.ok ())) ∧ after.state = before.state.closed ∧
    ending.result = .ok blockedAccount.closed ∧ ending.calls = blockedAccount.stopRequests ∧
    blockedAccount.stopRequests.length = 1 := by
  intro before task reply after home ending
  have calm : (play blockedDevice (some .first) blockedMoves).IsCalm := by decide +kernel
  obtain ⟨closes, unloads, -⟩ := Home.closed_unload
  obtain ⟨ended, -, left, -⟩ := closes blockedDevice (some .first) blockedMoves calm reply
  have rests : ∀ entry ∈ blockedAccount.keepers, Account.Rests entry.2 := by
    intro entry member
    refine ⟨blockedDevice, some .first, blockedMoves, calm, ?_⟩
    rw [List.mem_singleton.1 member]
  have found : home.accounts.lookup "entry" = some blockedAccount := rfl
  have distinct : blockedAccount.keepers.keys.Nodup := List.nodup_singleton "washer"
  obtain ⟨result, calls⟩ :=
    unloads (.alone fun what (_ : Unit) => (reply what, ())) home () "entry" blockedAccount found
      distinct rests
  exact ⟨by decide +kernel, ended, left, result, calls, by decide +kernel⟩

end Service
end ApplianceCloud
