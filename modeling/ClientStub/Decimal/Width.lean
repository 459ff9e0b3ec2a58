/-!
# Widths of integers

The integers that words of a given number of bits can hold.
-/

namespace ClientStub

/-- The number of values that a word of so many bits takes. -/
def wordSize (bits : Nat) : Nat := Nat.pow 2 bits

/-- Whether a signed word of so many bits holds an integer. -/
def fitsSigned (bits : Nat) (value : Int) : Bool :=
  -(wordSize (bits - 1) : Int) ≤ value && value < wordSize (bits - 1)

/-- Whether a word of so many bits holds an integer, with a sign or without one. -/
def fitsWord (bits : Nat) (value : Int) : Bool :=
  -(wordSize (bits - 1) : Int) ≤ value && value < wordSize bits

end ClientStub
