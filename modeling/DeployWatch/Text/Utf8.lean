/-!
# Reading UTF-8

* `decodeUtf8`: the text of a byte sequence, if it is well formed;
* `decodeUtf8Lossy`: the same with every ill-formed stretch replaced by U+FFFD.
-/

namespace DeployWatch.Text

/-- The length, the least second byte and the greatest second byte of a sequence starting with `b`. -/
def utf8Lead (b : Nat) : Option (Nat × Nat × Nat) :=
  if b < 0x80 then some (1, 0, 0)
  else if b < 0xC2 then none
  else if b < 0xE0 then some (2, 0x80, 0xBF)
  else if b = 0xE0 then some (3, 0xA0, 0xBF)
  else if b = 0xED then some (3, 0x80, 0x9F)
  else if b < 0xF0 then some (3, 0x80, 0xBF)
  else if b = 0xF0 then some (4, 0x90, 0xBF)
  else if b < 0xF4 then some (4, 0x80, 0xBF)
  else if b = 0xF4 then some (4, 0x80, 0x8F)
  else none

/-- A byte after the lead byte of a sequence. -/
def isContinuation (b : UInt8) : Bool := 0x80 ≤ b.toNat && b.toNat ≤ 0xBF

/-- The first character of a byte sequence, or the number of bytes of the ill-formed stretch, and in
either case how many bytes were looked at. -/
def utf8Head (b : UInt8) (rest : List UInt8) : Option Char × Nat :=
  match utf8Lead b.toNat with
  | none => (none, 1)
  | some (1, _, _) => (some (Char.ofNat b.toNat), 1)
  | some (len, lo, hi) =>
    match rest with
    | [] => (none, 1)
    | b2 :: rest2 =>
      if b2.toNat < lo || hi < b2.toNat then (none, 1)
      else if len = 2 then (some (Char.ofNat ((b.toNat - 0xC0) * 64 + (b2.toNat - 0x80))), 2)
      else match rest2 with
        | [] => (none, 2)
        | b3 :: rest3 =>
          if !isContinuation b3 then (none, 2)
          else if len = 3 then
            (some (Char.ofNat ((b.toNat - 0xE0) * 4096 + (b2.toNat - 0x80) * 64 +
              (b3.toNat - 0x80))), 3)
          else match rest3 with
            | [] => (none, 3)
            | b4 :: _ =>
              if !isContinuation b4 then (none, 3)
              else (some (Char.ofNat ((b.toNat - 0xF0) * 262144 + (b2.toNat - 0x80) * 4096 +
                (b3.toNat - 0x80) * 64 + (b4.toNat - 0x80))), 4)

private theorem drop_lt (b : UInt8) (rest : List UInt8) (n : Nat) :
    ((b :: rest).drop (max n 1)).length < (b :: rest).length := by
  simp only [List.length_drop, List.length_cons]; omega

/-- The characters of a byte sequence, with `none` for each ill-formed stretch. -/
def utf8Units : List UInt8 → List (Option Char)
  | [] => []
  | b :: rest =>
    let (c, n) := utf8Head b rest
    c :: utf8Units ((b :: rest).drop (max n 1))
termination_by bs => bs.length
decreasing_by exact drop_lt b rest _

/-- The text of well-formed UTF-8. -/
def decodeUtf8 (bytes : List UInt8) : Option String :=
  ((utf8Units bytes).mapM id).map String.ofList

/-- The text of UTF-8 in which each ill-formed stretch reads as U+FFFD. -/
def decodeUtf8Lossy (bytes : List UInt8) : String :=
  String.ofList ((utf8Units bytes).map (·.getD '\uFFFD'))

def encodeUtf8 (s : String) : List UInt8 := s.toUTF8.data.toList

end DeployWatch.Text
