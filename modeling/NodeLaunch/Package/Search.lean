import NodeLaunch.Notice

/-!
# Searching install prefixes

A package installed below a prefix has its data in `<prefix>/share/<package>`
and its programs in `<prefix>/lib/<package>`. A search looks through prefixes in
order, and after them through the distributions below one root directory. A
distribution that is already in the list, however it is spelled, is not looked
through again.
-/

namespace NodeLaunch

inductive ResolveError
  | packageNotFound (package : String)
  deriving DecidableEq, Repr

def ResolveError.message : ResolveError → String
  | .packageNotFound package =>
    .join ["Package '", package, "' not found. Ensure the package is installed and sourced."]

structure PackageSearch where
  prefixes : List Path
  distro : Option String
  /-- The directory that holds the distributions; without one none is looked through. -/
  optRoot : Option Path
  deriving DecidableEq, Repr

namespace PackageSearch

def markerDirectory : String := "share/ament_index/resource_index/packages"

def defaultOptRoot : Path := ⟨"/opt/ros"⟩

def knownDistros : List String := ["jazzy", "iron", "humble", "galactic", "foxy"]

def ofPrefixes (prefixes : List Path) : PackageSearch := ⟨prefixes, none, none⟩

def distroOf (name : String) : Option String := if name = "" then none else some name

abbrev colon : UInt8 := 0x3A

/-- The search that the environment asks for: its list of prefixes, separated by
colons, and then its distribution below the usual root. A name that is not UTF-8
is no name. -/
def ofEnvironment (prefixPath distro : Option SystemText) : PackageSearch where
  prefixes := ((prefixPath.map (SystemText.pieces colon)).getD []).filter
    (fun piece => piece.bytes ≠ []) |>.map Path.mk
  distro := (distro.bind SystemText.text?).bind distroOf
  optRoot := some defaultOptRoot

def withOptRoot (search : PackageSearch) (root : Path) : PackageSearch :=
  { search with optRoot := some root }

def withDistro (search : PackageSearch) (name : String) : PackageSearch :=
  { search with distro := distroOf name }

def candidates (search : PackageSearch) : List Path :=
  match search.optRoot with
  | none => []
  | some root => (search.distro.toList ++ knownDistros).map fun name : String => root.join name

/-- The root at the end of the list, unless it is in there under some spelling. -/
def addRoot (roots : List Path) (root : Path) : List Path :=
  if roots.any (·.same root) then roots else roots ++ [root]

def roots (search : PackageSearch) : List Path :=
  search.candidates.foldl addRoot search.prefixes

def shareDirectory (root : Path) (package : String) : Path := (root.join "share").join package

def hasPackage (files : Snapshot) (root : Path) (package : String) : Bool :=
  files.isFile ((root.join markerDirectory).join package) ||
    files.isDirectory (shareDirectory root package)

def look (files : Snapshot) (package : String) : List Path → Logged (Option Path)
  | [] => pure none
  | root :: rest => do
    Logged.tell (.searching package root)
    if hasPackage files root package then
      Logged.tell (.found package (shareDirectory root package))
      return some (shareDirectory root package)
    else look files package rest

def resolve (search : PackageSearch) (files : Snapshot) (package : String) :
    Logged (Except ResolveError Path) := do
  if package = "" then return .error (.packageNotFound package)
  match ← look files package search.roots with
  | some share => return .ok share
  | none =>
    Logged.tell (.exhausted package search.roots.length)
    return .error (.packageNotFound package)

theorem value_look (files : Snapshot) (package : String) (roots : List Path) :
    (look files package roots).value =
      (roots.find? (hasPackage files · package)).map (shareDirectory · package) := by
  induction roots with
  | nil => rfl
  | cons root rest ih =>
    cases h : hasPackage files root package with
    | true => simp [look, h]
    | false => simpa [look, h] using ih

end PackageSearch

end NodeLaunch
