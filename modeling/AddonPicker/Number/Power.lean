/-!
# Powers of two and ten

The two scales of this library's number formats: powers of two for what a machine holds, powers of
ten for what a reader sees.
-/

namespace AddonPicker

/-- A power of two. -/
def twoTo (n : Nat) : Nat := Nat.pow 2 n

/-- A power of ten. -/
def tenTo (n : Nat) : Nat := Nat.pow 10 n

end AddonPicker
