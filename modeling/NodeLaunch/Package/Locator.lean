import NodeLaunch.Package.Search

/-!
# Package locators

A locator answers where the share directory of a package is: from a table, or
by a search of install prefixes. What is made of the answers takes them from any
`Resolver`.
-/

namespace NodeLaunch

/-- Share directories by package name; a later entry for a name replaces an earlier one. -/
structure PackageTable where
  entries : List (String × Path)
  deriving DecidableEq, Repr

namespace PackageTable

def empty : PackageTable := ⟨[]⟩

def insert (table : PackageTable) (package : String) (share : Path) : PackageTable :=
  ⟨(package, share) :: table.entries⟩

def ofList (entries : List (String × Path)) : PackageTable :=
  entries.foldl (fun table (package, share) => table.insert package share) empty

def find? (table : PackageTable) (package : String) : Option Path :=
  (table.entries.find? (·.1 == package)).map (·.2)

theorem find?_insert (table : PackageTable) (package other : String) (share : Path) :
    (table.insert package share).find? other =
      if package = other then some share else table.find? other := by
  by_cases h : package = other <;> simp [insert, find?, h]

end PackageTable

inductive Locator
  | table (known : PackageTable)
  | search (order : PackageSearch)
  deriving DecidableEq, Repr

namespace Locator

def resolve (locator : Locator) (files : Snapshot) (package : String) :
    Logged (Except ResolveError Path) :=
  match locator with
  | .table known =>
    match known.find? package with
    | some share => pure (.ok share)
    | none => pure (.error (.packageNotFound package))
  | .search order => order.resolve files package

end Locator

structure Resolver where
  resolve : Snapshot → String → Logged (Except ResolveError Path)

instance : Coe Locator Resolver where
  coe locator := ⟨locator.resolve⟩

/-- The prefix that a share directory `<prefix>/share/<package>` lies in. -/
def installPrefix? (share : Path) : Option Path := share.parent?.bind Path.parent?

def executablePath? (share : Path) (package executable : String) : Option Path :=
  (installPrefix? share).map fun root => ((root.join "lib").join package).join executable

end NodeLaunch
