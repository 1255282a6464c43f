import Doctype.Source.Descent

/-! The tokens of a stack of sources. -/
namespace Doctype.SourceStack

open EStateM (Result)

/-- Scans the next token, expanding references on the way. At the end of input the stack is
empty. -/
def next (w : World) (t : EntityTable) (s : SourceStack) : Result Error SourceStack Lexeme :=
  match _h : s.step w t with
  | .error e s => .error e s
  | .ok (some lexeme) s => .ok lexeme s
  | .ok none s => next w t s
termination_by s.weights t
decreasing_by exact step_descends _h (by simp)

/-- Scans tokens until the end of input or the first error, which is the last item. -/
def tokens (w : World) (t : EntityTable) (s : SourceStack) :
    List (Except Error Lexeme) × SourceStack :=
  match _h : s.step w t with
  | .error e s => ([.error e], s)
  | .ok none s => tokens w t s
  | .ok (some lexeme) s =>
    if _hend : lexeme.token = .endOfInput then ([.ok lexeme], s)
    else
      let (rest, s) := tokens w t s
      (.ok lexeme :: rest, s)
termination_by s.weights t
decreasing_by
  · exact step_descends _h (by simp)
  · exact step_descends _h (by simpa using _hend)

/-- The tokens are the next one and, unless it ends the input, the tokens behind it. -/
theorem tokens_eq_next (w : World) (t : EntityTable) (s : SourceStack) :
    s.tokens w t =
      match s.next w t with
      | .error e s' => ([.error e], s')
      | .ok lexeme s' =>
        if lexeme.token = .endOfInput then ([.ok lexeme], s')
        else (.ok lexeme :: (s'.tokens w t).1, (s'.tokens w t).2) := by
  fun_induction next w t s with
  | case1 s e s' h => rw [tokens.eq_def]; split <;> simp_all
  | case2 s lexeme s' h => rw [tokens.eq_def]; split <;> simp_all
  | case3 s s' h ih => rw [tokens.eq_def]; split <;> simp_all

end Doctype.SourceStack
