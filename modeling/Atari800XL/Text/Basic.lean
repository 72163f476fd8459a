namespace Atari800XL.Text

def hexDigit (n : Nat) : Char :=
  "0123456789ABCDEF".toList.getD (n % 16) '0'

def hexDigits (width n : Nat) : List Char :=
  match width with
  | 0 => []
  | width + 1 => hexDigits width (n / 16) ++ [hexDigit n]

def hex (width n : Nat) : String := String.ofList (hexDigits width n)

def padLeft (width n : Nat) : String :=
  let digits := toString n
  "".pushn ' ' (width - digits.length) ++ digits

def isBlank (c : Char) : Bool :=
  let n := c.toNat
  (0x09 ≤ n && n ≤ 0x0D) || n == 0x20 || n == 0x85 || n == 0xA0 || n == 0x1680
    || (0x2000 ≤ n && n ≤ 0x200A) || n == 0x2028 || n == 0x2029 || n == 0x202F
    || n == 0x205F || n == 0x3000

def trimList (cs : List Char) : List Char :=
  ((cs.dropWhile isBlank).reverse.dropWhile isBlank).reverse

def trim (s : String) : String := String.ofList (trimList s.toList)

def cutList (c : Char) (cs : List Char) : Option (List Char × List Char) :=
  match cs.dropWhile (· != c) with
  | [] => none
  | _ :: after => some (cs.takeWhile (· != c), after)

def split (c : Char) (s : String) : List String := (s.toList.splitOn c).map String.ofList

def withoutReturn (line : String) : String :=
  if line.toList.getLast? = some '\r' then String.ofList line.toList.dropLast else line

def lines (s : String) : List String := (split '\n' s).map withoutReturn

theorem eq_append_of_cutList {c : Char} {cs before after : List Char}
    (h : cutList c cs = some (before, after)) : cs = before ++ c :: after := by
  unfold cutList at h
  split at h
  · simp at h
  · rename_i d rest hd
    simp only [Option.some.injEq, Prod.mk.injEq] at h
    have hc : d = c := by
      have := List.head?_dropWhile_not (· != c) cs
      simp [hd] at this
      exact this
    calc
      cs = cs.takeWhile (· != c) ++ cs.dropWhile (· != c) :=
        List.takeWhile_append_dropWhile.symm
      _ = before ++ c :: after := by rw [hd, h.1, h.2, hc]

theorem hexDigits_length (width n : Nat) : (hexDigits width n).length = width := by
  induction width generalizing n with
  | zero => rfl
  | succ width ih => simp [hexDigits, ih]

end Atari800XL.Text
