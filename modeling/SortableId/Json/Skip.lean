import SortableId.Json.Reader

/-!
# Skipped values

Members that nobody asked for are passed over.  They have to be well-formed, but the size of their
numbers and the pairing of their surrogates do not matter.
-/

namespace SortableId.Json.Reader

/-- Takes the rest of a text that is skipped. -/
def skipText : Reader Unit := fun text => do
  return ((), ← skipContent text)

/-- Takes the name of a member that is skipped, and the colon behind it. -/
def skipName : Reader Unit := fun text =>
  match fromToken text with
  | [] => .error .truncated
  | '"' :: rest => do
      let rest ← skipContent rest
      colon rest
  | _ => .error .malformed

/-- Whether a record that is skipped has another member; otherwise the brace that closes the
record is taken. -/
def skipToMember (first : Bool) : Reader Bool := fun text =>
  match fromToken text with
  | [] => .error .truncated
  | '\x7d' :: rest => .ok (false, rest)
  | c :: rest =>
      if first then .ok (true, c :: rest)
      else if c = ',' then .ok (true, rest)
      else .error .malformed

mutual

/-- Takes a value of any type.  Every step takes at least one character, so fuel of twice the length
of the text suffices. -/
def skipValue (fuel : Nat) : Reader Unit := fun text =>
  match fuel with
  | 0 => .error .malformed
  | fuel + 1 =>
      match fromToken text with
      | [] => .error .truncated
      | '"' :: rest => skipText rest
      | '[' :: rest => skipItems fuel true rest
      | '\x7b' :: rest => skipMembers fuel true rest
      | 'n' :: rest => expect ['u', 'l', 'l'] rest
      | 't' :: rest => expect ['r', 'u', 'e'] rest
      | 'f' :: rest => expect ['a', 'l', 's', 'e'] rest
      | c :: rest =>
          if c = '-' ∨ c.isDigit then do
            return ((), ← skipNumber (c :: rest))
          else
            .error .malformed

/-- Takes the items of a list from the next one on. -/
def skipItems (fuel : Nat) (first : Bool) : Reader Unit := fun text =>
  match fuel with
  | 0 => .error .malformed
  | fuel + 1 => do
      let (more, rest) ← moreItems first text
      if more then
        let ((), rest) ← skipValue fuel rest
        skipItems fuel false rest
      else
        return ((), rest)

/-- Takes the members of a record from the next one on. -/
def skipMembers (fuel : Nat) (first : Bool) : Reader Unit := fun text =>
  match fuel with
  | 0 => .error .malformed
  | fuel + 1 => do
      let (more, rest) ← skipToMember first text
      if more then
        let ((), rest) ← skipName rest
        let ((), rest) ← skipValue fuel rest
        skipMembers fuel false rest
      else
        return ((), rest)

end

/-- Takes a value of any type. -/
def skip : Reader Unit := fun text => skipValue (2 * text.length + 1) text

end SortableId.Json.Reader
