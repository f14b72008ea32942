/-!
# Shortest decimals

The decimal text of a binary floating-point number has the fewest digits that read back as the
number, and of those the digits nearest to it.

## Main definitions

* `Binary64`: a finite positive number as `mantissa · 2 ^ exponent`.
* `Decimal`: digits with the power of ten of the last one.
* `Binary64.reads`: a decimal lies in the interval that rounds to the number.
* `Binary64.shortest`: the shortest decimal.
* `DecimalStyle.write`: the layout of the digits.
-/

namespace Pageworks

/-- A positive number `mantissa · 2 ^ exponent`, the mantissa below `2 ^ 53`. -/
structure Binary64 where
  /-- The significant bits. -/
  mantissa : Nat
  /-- The power of two of the last bit. -/
  exponent : Int

/-- The decimal `digits · 10 ^ exponent`. -/
structure Decimal where
  /-- The digits as a number. -/
  digits : Nat
  /-- The power of ten of the last digit. -/
  exponent : Int

/-- `n / d` times `b ^ e` as a fraction. -/
def scaled (n d b : Nat) (e : Int) : Nat × Nat :=
  if 0 ≤ e then (n * Nat.pow b e.toNat, d) else (n, d * Nat.pow b (-e).toNat)

namespace Binary64

/-- The magnitude of a finite, nonzero floating-point number. -/
def ofFloat (x : Float) : Binary64 :=
  let bits := x.toBits.toNat
  let e : Nat := (bits / Nat.pow 2 52) % Nat.pow 2 11
  let m : Nat := bits % Nat.pow 2 52
  if e == 0 then ⟨m, -1074⟩ else ⟨m + Nat.pow 2 52, (e : Int) - 1075⟩

/-- The lower and the upper end of the interval that rounds to the number, in quarters of the
unit of its last bit. -/
def ends (x : Binary64) : Nat × Nat :=
  let low := if x.mantissa == Nat.pow 2 52 && x.exponent != -1074 then 1 else 2
  (4 * x.mantissa - low, 4 * x.mantissa + 2)

/-- The decimal reads back as the number: it lies in the interval, whose ends count for an even
mantissa. -/
def reads (x : Binary64) (d : Decimal) : Bool :=
  let (lo, hi) := x.ends
  let (dn, dd) := scaled d.digits 1 10 d.exponent
  let (ln, ld) := scaled lo 4 2 x.exponent
  let (hn, hd) := scaled hi 4 2 x.exponent
  let even := x.mantissa % 2 == 0
  if even then ln * dd ≤ dn * ld && dn * hd ≤ hn * dd
  else ln * dd < dn * ld && dn * hd < hn * dd

/-- The least `k` in the range with `x < 10 ^ k`, counted up from `k`. -/
def magnitudeFrom (n d : Nat) : Nat → Int → Int
  | 0, k => k
  | fuel + 1, k =>
    let (pn, pd) := scaled 1 1 10 k
    if n * pd < pn * d then k else magnitudeFrom n d fuel (k + 1)

/-- The number of digits before the point, less the zeros after it. -/
def magnitude (x : Binary64) : Int :=
  let (n, d) := scaled x.mantissa 1 2 x.exponent
  magnitudeFrom n d 640 (-324)

/-- The neighbours of the number on the grid of `10 ^ e`, the nearer one first; of two equally
near the even one. -/
def neighbours (x : Binary64) (e : Int) : Decimal × Decimal :=
  let (n, d) := scaled x.mantissa 1 2 x.exponent
  let (n, d) := scaled n d 10 (-e)
  let q := n / d
  let r := n % d
  let down : Decimal := ⟨q, e⟩
  let up : Decimal := ⟨q + 1, e⟩
  if 2 * r < d || (2 * r == d && q % 2 == 0) then (down, up) else (up, down)

/-- The shortest decimal with at least the given number of digits. -/
def shortestFrom (x : Binary64) (k : Int) : Nat → Nat → Decimal
  | 0, n => (x.neighbours (k - n)).1
  | fuel + 1, n =>
    let (near, far) := x.neighbours (k - n)
    if x.reads near then near
    else if x.reads far then far
    else shortestFrom x k fuel (n + 1)

/-- The shortest decimal that reads back as the number, the nearest one of those. -/
def shortest (x : Binary64) : Decimal := x.shortestFrom x.magnitude 17 1

end Binary64

/-- How the digits of a decimal are laid out. -/
structure DecimalStyle where
  /-- Numbers below ten to this power are written without an exponent. -/
  positionalBelow : Int
  /-- Numbers from ten to this power on are written without an exponent. -/
  positionalFrom : Int
  /-- What a whole number ends in. -/
  wholeMark : String
  /-- The least number of digits in an exponent. -/
  exponentDigits : Nat

namespace DecimalStyle

/-- The digits of a number without the zeros at its end, and how many those were. -/
def significant (n : Nat) : List Char × Nat :=
  let ds := (Nat.toDigits 10 n).reverse
  let kept := ds.dropWhile (· == '0')
  (kept.reverse, ds.length - kept.length)

/-- The text of a positive decimal. -/
def write (s : DecimalStyle) (d : Decimal) : String :=
  let (ds, zeros) := significant d.digits
  let point : Int := ds.length + (d.exponent + zeros)
  let magnitude := point - 1
  if s.positionalFrom ≤ magnitude && magnitude < s.positionalBelow then
    if point ≤ 0 then
      "0." ++ String.ofList (List.replicate (-point).toNat '0' ++ ds)
    else if (ds.length : Int) ≤ point then
      String.ofList (ds ++ List.replicate (point - ds.length).toNat '0') ++ s.wholeMark
    else
      String.ofList (ds.take point.toNat) ++ "." ++ String.ofList (ds.drop point.toNat)
  else
    let e := Nat.toDigits 10 magnitude.natAbs
    let e := List.replicate (s.exponentDigits - e.length) '0' ++ e
    let tail := match ds.drop 1 with
      | [] => []
      | rest => '.' :: rest
    String.ofList (ds.take 1 ++ tail ++ ['e', if magnitude < 0 then '-' else '+'] ++ e)

end DecimalStyle

end Pageworks
