import ClusterProbe.Log

/-!
# Work that logs

Work that may fail and logs as it goes. What was logged before a failure is kept.
-/
namespace ClusterProbe

abbrev Logged (ε : Type) := ExceptT ε (StateM (List LogEvent))

namespace Logged

variable {ε α : Type}

def log (event : LogEvent) : Logged ε Unit :=
  modify (· ++ [event])

def lift (x : Except ε α) : Logged ε α :=
  ExceptT.mk (pure x)

def result (x : Logged ε α) : Except ε α × List LogEvent :=
  x.run.run []

/-- The same work with its failure told otherwise. -/
def mapFailure {δ : Type} (f : ε → δ) (x : Logged ε α) : Logged δ α :=
  ExceptT.mk ((fun r => r.mapError f) <$> x.run)

end Logged
end ClusterProbe
