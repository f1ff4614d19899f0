/-!
Programs over a host. A program is either finished with a result or asks the host one question and
goes on with the answer, so a host alone decides what the outside does and which thread runs next.
-/
namespace ConsumerChannel

/-- A program that asks questions of one kind, each with its own type of answer. -/
inductive Program (Query : Type) (Answer : Query → Type) (α : Type) where
  /-- The program is finished. -/
  | done (result : α)
  /-- The program asks a question and goes on with the answer. -/
  | ask (query : Query) (next : Answer query → Program Query Answer α)

namespace Program
variable {Query : Type} {Answer : Query → Type} {α β σ : Type}

/-- One program after another, which goes on with the result of the first. -/
def andThen : Program Query Answer α → (α → Program Query Answer β) → Program Query Answer β
  | done a, f => f a
  | ask q next, f => ask q fun answer => andThen (next answer) f

instance : Monad (Program Query Answer) where
  pure := done
  bind := andThen

/-- The program that asks one question. -/
def query (q : Query) : Program Query Answer (Answer q) := ask q done

/-- Runs a program on a host, which answers a question in a state and leaves a state. -/
def execute (host : (q : Query) → σ → Answer q × σ) : Program Query Answer α → σ → α × σ
  | done a, s => (a, s)
  | ask q next, s =>
    let answered := host q s
    execute host (next answered.1) answered.2

@[simp] theorem execute_done (host : (q : Query) → σ → Answer q × σ) (a : α) (s : σ) :
    execute host (done a : Program Query Answer α) s = (a, s) := rfl

@[simp] theorem execute_pure (host : (q : Query) → σ → Answer q × σ) (a : α) (s : σ) :
    execute host (pure a : Program Query Answer α) s = (a, s) := rfl

@[simp] theorem execute_query (host : (q : Query) → σ → Answer q × σ) (q : Query) (s : σ) :
    execute host (query q : Program Query Answer _) s = host q s := rfl

/-- A sequence runs its second part in the state that the first part leaves. -/
@[simp] theorem execute_bind (host : (q : Query) → σ → Answer q × σ) (p : Program Query Answer α)
    (f : α → Program Query Answer β) (s : σ) :
    execute host (p >>= f) s = execute host (f (execute host p s).1) (execute host p s).2 := by
  show execute host (andThen p f) s = _
  induction p generalizing s with
  | done a => rfl
  | ask q next ih => exact ih (host q s).1 (host q s).2

end Program

end ConsumerChannel
