/-!
Words of any script in ASCII letters, digits and hyphens.

The ASCII characters of a word come first. Then each other character, from the lowest code point on, is
given by how many steps lie between it and the one before, counting code points and places together.
The steps are written in a number system to the base 36 whose weights adapt to the steps so far.
-/
namespace Concordance.Url.Punycode

def digit (d : Nat) : Char :=
  if d < 26 then Char.ofNat ('a'.toNat + d) else Char.ofNat ('0'.toNat + (d - 26))

def digit? (c : Char) : Option Nat :=
  if 'a' ≤ c ∧ c ≤ 'z' then some (c.toNat - 'a'.toNat)
  else if 'A' ≤ c ∧ c ≤ 'Z' then some (c.toNat - 'A'.toNat)
  else if '0' ≤ c ∧ c ≤ '9' then some (c.toNat - '0'.toNat + 26)
  else none

/-- A digit below this is the last one of its number. `place` counts the digits before it by 36. -/
def threshold (bias place : Nat) : Nat :=
  min 26 (max 1 (place + 36 - bias))

theorem threshold_pos (bias place : Nat) : 1 ≤ threshold bias place := by
  unfold threshold; omega

/-- Divides by 35 until the result is small, counting the divisions by 36. -/
def damped (delta count : Nat) : Nat × Nat :=
  if 455 < delta then damped (delta / 35) (count + 36) else (delta, count)
termination_by delta
decreasing_by exact Nat.div_lt_self (by omega) (by omega)

/-- The bias after a number of steps in a word that has now `size` characters. -/
def adapt (delta size : Nat) (first : Bool) : Nat :=
  let start := if first then delta / 700 else delta / 2
  let (delta, count) := damped (start + start / size) 0
  count + 36 * delta / (delta + 38)

/-- The digits of a number, the lowest one first. -/
def digits (bias place n : Nat) : List Char :=
  let t := threshold bias place
  if n < t then [digit n]
  else digit (t + (n - t) % (36 - t)) :: digits bias (place + 36) ((n - t) / (36 - t))
termination_by n
decreasing_by
  have := threshold_pos bias place
  have : (n - threshold bias place) / (36 - threshold bias place) ≤ n - threshold bias place :=
    Nat.div_le_self _ _
  omega

/-- Where encoding stands: the steps not yet written, how many characters are, and the bias. -/
structure Progress where
  delta : Nat := 0
  written : Nat
  bias : Nat := 72
  first : Bool := true
  output : List Char

/-- Goes past one character of the word while the code point `n` is written. -/
def Progress.pass (n : Nat) (p : Progress) (c : Char) : Progress :=
  if c.toNat < n then { p with delta := p.delta + 1 }
  else if c.toNat = n then
    { delta := 0, written := p.written + 1, bias := adapt p.delta (p.written + 1) p.first, first := false,
      output := p.output ++ digits p.bias 0 p.delta }
  else p

/-- Writes the code points that are left, each with the one before it. -/
def encodeFrom (word : List Char) : Nat → List Nat → Progress → List Char
  | _, [], p => p.output
  | next, n :: rest, p =>
    let p := { p with delta := p.delta + (n - next) * (p.written + 1) }
    let p := word.foldl (Progress.pass n) p
    encodeFrom word (n + 1) rest { p with delta := p.delta + 1 }

def encode (word : List Char) : List Char :=
  let basic := word.filter (·.toNat < 0x80)
  let others := ((word.map Char.toNat).filter (0x80 ≤ ·)).eraseDups.mergeSort
  let output := if basic.isEmpty then [] else basic ++ ['-']
  encodeFrom word 0x80 others { written := basic.length, output }

def char? (n : Nat) : Option Char :=
  if n.isValidChar then some (Char.ofNat n) else none

/-- Reads digits. `word` is what has been read of the word, `i` the place where the last character went
in and what has been added to it since, by digits of the given weight and place. -/
def decodeFrom (word : List Char) (n i old weight place bias : Nat) : List Char → Option (List Char)
  | [] => if weight = 1 ∧ place = 0 then some word else none
  | c :: rest =>
    match digit? c with
    | none => none
    | some d =>
      let i := i + d * weight
      let t := threshold bias place
      if d < t then
        let size := word.length + 1
        let n := n + i / size
        match char? n with
        | none => none
        | some character =>
          decodeFrom (word.take (i % size) ++ character :: word.drop (i % size)) n (i % size + 1)
            (i % size + 1) 1 0 (adapt (i - old) size (old = 0)) rest
      else decodeFrom word n i old (weight * (36 - t)) (place + 36) bias rest

def decode? (text : List Char) : Option (List Char) :=
  let ending := (text.reverse.takeWhile (· ≠ '-')).reverse
  let basic := text.take (text.length - ending.length - 1)
  if basic.isEmpty then decodeFrom [] 0x80 0 0 1 0 72 text
  else decodeFrom basic 0x80 0 0 1 0 72 ending

end Concordance.Url.Punycode
