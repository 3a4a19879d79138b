import ClusterProbe.Testbed.Run

/-!
# Plans

What a command does as a whole: jobs one after the other, or several that start together and are all
waited for. A rehearsal of a plan runs its jobs in a testbed.
-/
namespace ClusterProbe

inductive Plan (α : Type) : Type 1 where
  | done (result : α)
  | run {β : Type} (job : Job β) (next : β → Plan α)
  | together {β : Type} (jobs : List (Job β)) (next : List β → Plan α)

namespace Plan

variable {α β : Type}

protected def bind : Plan α → (α → Plan β) → Plan β
  | done a, f => f a
  | run job next, f => run job fun b => (next b).bind f
  | together jobs next, f => together jobs fun bs => (next bs).bind f

instance : Monad Plan where
  pure := done
  bind := Plan.bind

def one (job : Job α) : Plan α :=
  run job done

/-- The results are in the order of the jobs. -/
def all (jobs : List (Job α)) : Plan (List α) :=
  together jobs done

/-- Goes through with a plan in a testbed. There is no result if a job waits for ever. -/
def rehearse : Plan α → OptionT Rehearsal α
  | done a => pure a
  | run job next => Rehearsal.runOne job >>= fun b => (next b).rehearse
  | together jobs next => Rehearsal.runAll jobs >>= fun bs => (next bs).rehearse

end Plan
end ClusterProbe
