import ApplianceCloud.Account.Interval
import ApplianceCloud.Account.Roster
import ApplianceCloud.Keeper.Basic

namespace ApplianceCloud

structure AccountEntry where
  id : String
  data : Fields Document
  options : Fields Document := []
  deriving Repr

structure Account where
  token : Token
  roster : Roster
  keepers : Fields Keeper := []
  deriving Repr

namespace Account

def enlist {σ : Type} (device : ListedDevice) : Cloud σ (String × Keeper) := do
  let keeper := (Keeper.fresh device (some device.generation)).start
  let (_, keeper) ← Keeper.refresh.alone keeper
  return (device.id, keeper)

def keepable (roster : Roster) : List ListedDevice :=
  roster.devices.values.filter (·.family ≠ .unknown)

def started {σ : Type} (token : Token) (interval? : Option Nat) : Cloud σ Account := do
  let (_, roster) ← Roster.refresh.alone { interval? }
  match roster.lastFailure? with
  | some cause => Activity.fail (.notReady cause.message)
  | none => return { token, roster, keepers := ← (keepable roster).mapM enlist }

def setUp {σ : Type} (entry : AccountEntry) : Cloud σ Account := do
  let token ← Token.ofMembers entry.data
  match Interval.ofDocument (Interval.configured entry.data entry.options) with
  | .error fault => Activity.fail (.conversion fault)
  | .ok interval? => Cloud.withToken token (started token interval?)

def markRemoved (account : Account) : Account :=
  let kept (id : String) (keeper : Keeper) : Keeper :=
    if account.roster.devices.has id then keeper else keeper.markGone
  { account with keepers := account.keepers.map fun entry => (entry.1, kept entry.1 entry.2) }

def onRoster {α : Type} (activity : Cloud Roster α) : Cloud Account α :=
  activity.onPart (fun account : Account => account.roster) fun roster account => { account with roster }

def onKeeper {α : Type} (id : String) (activity : Keeping α) : Cloud Account α :=
  activity.onMember (fun account : Account => account.keepers)
    (fun keepers account => { account with keepers }) id

def withOwnToken {α : Type} (activity : Cloud Account α) : Cloud Account α := do
  let account ← Activity.gets id
  Cloud.withToken account.token activity

def refresh : Cloud Account Unit := withOwnToken do
  if ← onRoster Roster.refresh then Activity.modify markRemoved

def shutdown : Cloud Account Unit := withOwnToken do
  let account ← Activity.gets id
  account.keepers.keys.forM fun id => onKeeper id Keeper.shutdown
  onRoster (Activity.modify fun roster => { roster with isShutDown := true })

end Account

end ApplianceCloud
