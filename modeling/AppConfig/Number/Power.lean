/-! # Powers of two and ten

* `twoTo`, `tenTo`: the powers that binary and decimal places stand for.
-/

namespace AppConfig
set_option autoImplicit false

/-- Two to the power `n`. -/
def twoTo (n : Nat) : Nat := Nat.pow 2 n

/-- Ten to the power `n`. -/
def tenTo (n : Nat) : Nat := Nat.pow 10 n

end AppConfig
