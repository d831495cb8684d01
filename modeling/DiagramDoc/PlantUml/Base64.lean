/-! # Base 64 of PlantUML

PlantUML servers read six bits a character from an alphabet of their own: digits, capitals, small
letters, a hyphen and an underscore. Only whole groups of three bytes are written; a short last
group is filled up with zero bytes.
-/

namespace DiagramDoc.PlantUml

def alphabet : List Char :=
  "0123456789ABCDEFGHIJKLMNOPQRSTUVWXYZabcdefghijklmnopqrstuvwxyz-_".toList

def digit (n : Nat) : Char := alphabet.getD n '0'

def group (a b c : UInt8) : List Char :=
  let n := (a.toNat * 256 + b.toNat) * 256 + c.toNat
  [digit (n / 262144), digit (n / 4096 % 64), digit (n / 64 % 64), digit (n % 64)]

def base64 : List UInt8 → List Char
  | [] => []
  | [a] => group a 0 0
  | [a, b] => group a b 0
  | a :: b :: c :: rest => group a b c ++ base64 rest

theorem length_base64 (bs : List UInt8) : (base64 bs).length = (bs.length + 2) / 3 * 4 := by
  fun_induction base64 bs with
  | case1 => rfl
  | case2 => simp [group]
  | case3 => simp [group]
  | case4 a b c rest ih =>
    rw [List.length_append, ih]
    simp only [group, List.length_cons, List.length_nil]
    omega

end DiagramDoc.PlantUml
