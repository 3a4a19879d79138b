import ClusterProbe.Cluster.Error

/-!
# Why a command fails

A failure is told from the outside in: what was being done, and what stood in its way, down to the
first cause.
-/
namespace ClusterProbe

structure Failure where
  text : String
  causes : List String := []
  deriving DecidableEq, Repr

namespace Failure

/-- The texts from the outermost to the first cause. -/
def chain (f : Failure) : List String :=
  f.text :: f.causes

/-- Says what was being done when something failed. -/
def within (text : String) (f : Failure) : Failure :=
  ⟨text, f.chain⟩

def ofClient (e : ClientError) : Failure :=
  ⟨e.message, e.sources⟩

def ofSession (e : SessionError) : Failure :=
  ⟨e.message, e.sources⟩

/-- The report of a program that ends with a failure. Of several causes each has its number. -/
def report (f : Failure) : String :=
  match f.causes with
  | [] => s!"Error: {f.text}\n"
  | [cause] => s!"Error: {f.text}\n\nCaused by:\n    {cause}\n"
  | causes =>
    let line := fun (cause, i) => s!"    {i}: {cause}\n"
    s!"Error: {f.text}\n\nCaused by:\n" ++ String.join (causes.zipIdx.map line)

end Failure
end ClusterProbe
