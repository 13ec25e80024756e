import PolicyOperator.Platform

/-!
# Chart operations

The operations of a chart client on the release book of the platform. Each first looks whether the
operator has been told to stop, then notes the call, and then may be made to fail.
-/

namespace PolicyOperator.Charts

/-- Begins an operation. -/
def enter (o : ChartOperation) (target : String) : PlatformM Unit := do
  if (← get).cancelled then
    throw (.cancelled o.title)
  modify fun p => { p with book := p.book.note o target }
  if (← get).book.failing.contains o then
    throw (.transient o.title "injected failure")

/-- Registers a repository. -/
def ensureRepository (r : ChartRepository) : PlatformM Unit := do
  enter .repo r.name
  modify fun p =>
    if p.book.repositories.contains r.name then p
    else { p with book := { p.book with repositories := r.name :: p.book.repositories } }

/-- The release of a name in a namespace. -/
def release (ns name : String) : PlatformM (Option Release) := do
  enter .list (ns ++ "/" ++ name)
  return (← get).book.get? ns name

def install (r : ReleaseRequest) : PlatformM Unit := do
  enter .install (r.ns ++ "/" ++ r.release)
  modify fun p => { p with book := p.book.deploy r }

def upgrade (r : ReleaseRequest) : PlatformM Unit := do
  enter .upgrade (r.ns ++ "/" ++ r.release)
  modify fun p => { p with book := p.book.deploy r }

/-- Removes a release, which has to be there. -/
def uninstall (ns name : String) : PlatformM Unit := do
  enter .uninstall (ns ++ "/" ++ name)
  match (← get).book.get? ns name with
  | none => throw (.releaseNotFound name)
  | some _ => modify fun p => { p with book := p.book.remove ns name }

end PolicyOperator.Charts
