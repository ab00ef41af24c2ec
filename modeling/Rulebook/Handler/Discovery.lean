/-
Rulebook.Handler.Discovery — registering the handlers that live in given modules.

Modules are named by paths whose segments are joined by `::`.  An entry lies in
a module when its own path is that module's path or continues it with another
segment.  Discovery takes the entries that lie in one of the given modules, in
the order of their paths and names.
-/
import Rulebook.Handler.Registry

namespace Rulebook

/-- A handler that can be discovered, with the module and the name it is declared under. -/
structure HandlerEntry where
  module : String
  name : String
  handler : Handler

namespace HandlerEntry

/-- Whether the entry lies in a module or in one of its submodules. -/
def isIn (e : HandlerEntry) (module : String) : Bool :=
  match List.isPrefixOf? module.toList e.module.toList with
  | some rest => rest.isEmpty || "::".toList.isPrefixOf rest
  | none => false

/-- Entries are ordered by module path and then by name, byte by byte. -/
def le (a b : HandlerEntry) : Bool :=
  ((compare a.module b.module).then (compare a.name b.name)).isLE

end HandlerEntry

namespace Registry

/-- The entries that lie in one of the modules, in order. -/
def found (entries : List HandlerEntry) (modules : List String) : List HandlerEntry :=
  (entries.filter fun e => modules.any e.isIn).mergeSort HandlerEntry.le

/-- Registers the handlers of entries whose types are not registered; counts them. -/
def registerAll (r : Registry) : List HandlerEntry → Nat × Registry
  | [] => (0, r)
  | e :: es =>
    let (isNew, next) := r.register e.handler
    let (count, last) := next.registerAll es
    ((if isNew then 1 else 0) + count, last)

/-- Registers what lies in the modules; gives the number of handlers that were new. -/
def discover (r : Registry) (entries : List HandlerEntry) (modules : List String) :
    Nat × Registry :=
  r.registerAll (found entries modules)

/-- The same with reports. -/
def registerAllReporting (r : Registry) :
    List HandlerEntry → Option (List (Operator × String) × Nat × Registry)
  | [] => some ([], 0, r)
  | e :: es => do
    let (told, isNew, next) ← r.registerReporting e.handler
    let (more, count, last) ← next.registerAllReporting es
    return (told ++ more, (if isNew then 1 else 0) + count, last)

/-- Registers what lies in the modules, with reports. -/
def discoverReporting (r : Registry) (entries : List HandlerEntry) (modules : List String) :
    Option (List (Operator × String) × Nat × Registry) :=
  r.registerAllReporting (found entries modules)

end Registry
end Rulebook
