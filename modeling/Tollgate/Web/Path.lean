import Tollgate.Policy.Basic

/-! Paths that lie under another path, and paths that are open to everyone. -/

namespace Tollgate.Web

/-- A path without the slashes at its end. -/
def withoutTrailingSlashes (path : List Char) : List Char :=
  (path.reverse.dropWhile (· == '/')).reverse

/-- The path is the base or goes on from it with a new segment; every path lies under the root. -/
def liesUnder (path base : String) : Bool :=
  let base := withoutTrailingSlashes base.toList
  base.isEmpty ||
    match base.isPrefixOf? path.toList with
    | none => false
    | some [] => true
    | some (c :: _) => c == '/'

/-- The path needs no credential under the policy. -/
def isOpen (policy : Policy) (path : String) : Bool :=
  policy.openBases.any fun base =>
    if policy.rawMatching then base.toList.isPrefixOf path.toList else liesUnder path base

end Tollgate.Web
