import ApplianceCloud.Account.Basic

namespace ApplianceCloud

structure Home where
  accounts : Fields Account := []
  followers : List String := []
  reloadRequests : Nat := 0
  deriving Repr

namespace Home

def load (entry : AccountEntry) : Cloud Home Unit := do
  let account ← Account.setUp entry
  Activity.modify fun home =>
    { home with
      accounts := home.accounts.put entry.id account
      followers := entry.id :: home.followers }

def onAccount {α : Type} (id : String) (activity : Cloud Account α) : Cloud Home α :=
  activity.onMember (fun home : Home => home.accounts)
    (fun accounts home => { home with accounts }) id

def refresh (id : String) : Cloud Home Account := onAccount id do
  Account.refresh
  Activity.gets fun account => account

def unload (id : String) : Cloud Home Account := do
  let home ← Activity.gets fun home => home
  match home.accounts.lookup id with
  | none => Activity.fail (.shape (.missingKey id))
  | some account =>
      Activity.modify fun home => { home with accounts := home.accounts.without id }
      let (result, account) ← Account.shutdown.alone account
      let _ ← result
      return account

def changeOptions (home : Home) (id : String) : Home :=
  { home with reloadRequests := home.reloadRequests + home.followers.count id }

end Home

end ApplianceCloud
