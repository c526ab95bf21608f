/-!
# Powers of two and of ten

Fixed widths are powers of two, and the places of a decimal are powers of ten. Both are
`Nat.pow` by name: which operation the sign for powers stands for depends on what is imported.
-/

namespace TrackSelect

/-- How many values there are of so many bits. -/
abbrev twoTo (bits : Nat) : Nat := Nat.pow 2 bits

/-- The weight of a decimal place. -/
abbrev tenTo (places : Nat) : Nat := Nat.pow 10 places

theorem twoTo_pos (bits : Nat) : 0 < twoTo bits := Nat.two_pow_pos bits

end TrackSelect
