namespace ApplianceCloud

/-- The power of two of an exponent; one if the exponent is negative. -/
def twoTo (exponent : Int) : Nat := Nat.pow 2 exponent.toNat

def tenTo (exponent : Int) : Nat := Nat.pow 10 exponent.toNat

example : twoTo 10 = 1024 ∧ tenTo 3 = 1000 ∧ twoTo (-1) = 1 := by decide

end ApplianceCloud
