import ContextSnap.Lib.Bytes
import ContextSnap.Lib.Loop

/-!
# Glob patterns

The iterative matcher behind selectors, exclusions and host lists. A `*` remembers where it stood,
and a mismatch behind it lets it take one more byte of the text.
-/

namespace ContextSnap.Privacy

/-- What is left of the pattern and of the text. `retry` is the pattern behind the last star and the
text behind what the star takes so far. -/
structure GlobState where
  pattern : Bytes
  text : Bytes
  retry : Option (Bytes × Bytes) := none

/-- One round of the matcher's loop. -/
def globRound (s : GlobState) : Except Unit (GlobState ⊕ Bool) :=
  match s.text with
  | [] => .ok (.inr (s.pattern.dropWhile (· = 42) = []))
  | c :: text =>
      if s.pattern.head?.any fun p => p = 63 || toLower p = toLower c then
        .ok (.inl { s with pattern := s.pattern.tail, text })
      else if s.pattern.head? = some 42 then
        .ok (.inl { s with pattern := s.pattern.tail, retry := some (s.pattern.tail, s.text) })
      else
        match s.retry with
        | some (behind, taken) =>
            .ok (.inl { pattern := behind, text := taken.tail, retry := some (behind, taken.tail) })
        | none => .ok (.inr false)

/-- A star moves on at most once for each byte of the text, and a round that moves no star takes a
byte of the pattern. -/
def globMatch (pattern text : Bytes) : Bool :=
  let budget := (text.length + 1) * (pattern.length + 1) + pattern.length + 1
  (Loop.run globRound () budget { pattern, text }).toOption.getD false

end ContextSnap.Privacy
