/-! Tables of code points. -/
namespace Schemata.Text

/-- Every `step`-th code point from `first` to `last`, as `(first, last, step)`. -/
abbrev Span := Nat × Nat × Nat

def Span.contains (s : Span) (n : Nat) : Bool :=
  s.1 ≤ n && n ≤ s.2.1 && (n - s.1) % s.2.2 = 0

def inSpans (spans : List Span) (n : Nat) : Bool := spans.any (·.contains n)

end Schemata.Text
