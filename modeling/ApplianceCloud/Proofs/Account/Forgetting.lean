import ApplianceCloud.Proofs.Account.Removal

namespace ApplianceCloud

open Activity

namespace Account

/-- Whether a duty of the keeper of a device made a report between two states of an account. -/
def Reported (before after : Account) (id : String) (duty : Keeper.Duty) : Prop :=
  ∃ keeper between later, before.keepers.lookup id = some keeper ∧ keeper.Unnoticed between ∧
    duty.Reports between later ∧ after.keepers.lookup id = some later

section Play

variable {σ ω : Type} {account : Account}

def played (account : Account) (moves : List (Move letters Chore)) : Account :=
  (Scene.play Chore.activity account moves).state

end Play

end Account

end ApplianceCloud
