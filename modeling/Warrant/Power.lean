-- Powers of two and of ten.

namespace Warrant

def twoTo (n : Nat) : Nat := Nat.pow 2 n

def tenTo (n : Nat) : Nat := Nat.pow 10 n

theorem twoTo_pos (n : Nat) : 0 < twoTo n := Nat.pow_pos (by decide)

theorem tenTo_pos (n : Nat) : 0 < tenTo n := Nat.pow_pos (by decide)

theorem twoTo_succ (n : Nat) : twoTo (n + 1) = 2 * twoTo n := Nat.pow_succ'

theorem tenTo_succ (n : Nat) : tenTo (n + 1) = 10 * tenTo n := Nat.pow_succ'

end Warrant
