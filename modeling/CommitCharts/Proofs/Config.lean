import CommitCharts.Config.Basic
import CommitCharts.Proofs.Path.Join

/-!
# CommitCharts.Proofs.Config — settings that are accepted, and where their paths start

Settings are checked in a fixed order (`validate_eq`), and accepted exactly if their version is the supported one, some
commit may be shown and no chart is empty (`validate_eq_ok_iff`).  Taking their paths from one directory and then from
another is taking them from the joined directories (`resolve_resolve`).
-/

namespace CommitCharts.Config

/-- The first check that fails is the reason: the version, the number of commits, the size of the overview and then that
of the trends. -/
theorem validate_eq (c : Config) :
    c.validate =
      if c.version ≠ 1 then .error (.version c.version 1)
      else if c.maxCommits = 0 then .error (.invalid "max_commits must be positive")
      else if c.overviewSize.width = 0 ∨ c.overviewSize.height = 0 then
        .error (.invalid ("overview_size must be non-zero, got " ++ toString c.overviewSize.width ++ "x" ++
          toString c.overviewSize.height))
      else if c.trendSize.width = 0 ∨ c.trendSize.height = 0 then
        .error (.invalid ("trend_size must be non-zero, got " ++ toString c.trendSize.width ++ "x" ++
          toString c.trendSize.height))
      else .ok () := by
  unfold validate checkSize
  split_ifs <;> first | rfl | contradiction

theorem validate_eq_ok_iff {c : Config} :
    c.validate = .ok () ↔ c.version = supportedVersion ∧ c.maxCommits ≠ 0 ∧
      (c.overviewSize.width ≠ 0 ∧ c.overviewSize.height ≠ 0) ∧ c.trendSize.width ≠ 0 ∧ c.trendSize.height ≠ 0 := by
  rw [validate_eq]
  split_ifs with hversion hcommits hoverview htrend
  · exact iff_of_false nofun fun h => hversion h.1
  · exact iff_of_false nofun fun h => h.2.1 hcommits
  · exact iff_of_false nofun fun h => hoverview.elim h.2.2.1.1 h.2.2.1.2
  · exact iff_of_false nofun fun h => htrend.elim h.2.2.2.1 h.2.2.2.2
  · exact iff_of_true rfl ⟨not_not.1 hversion, hcommits, not_or.1 hoverview, not_or.1 htrend⟩

/-! ### Paths -/

/-- The test for absolute paths only anticipates the one that joining makes. -/
theorem rebase_eq_join (root p : Path) : rebase root p = root.join p := by
  unfold rebase
  split_ifs with h
  · exact (Path.join_absolute h).symm
  · rfl

theorem resolve_eq (c : Config) (root : Path) :
    c.resolve root =
      { c with
        database := root.join c.database
        docsDir := root.join c.docsDir
        suiteDir := root.join c.suiteDir } := by
  unfold resolve
  rw [rebase_eq_join, rebase_eq_join, rebase_eq_join]

/-- Where the paths start has no say in whether settings are accepted. -/
theorem validate_resolve (c : Config) (root : Path) : (c.resolve root).validate = c.validate := rfl

theorem resolve_join (c : Config) (outer inner : Path) :
    (c.resolve inner).resolve outer = c.resolve (outer.join inner) := by
  rw [resolve_eq c inner, resolve_eq, resolve_eq c, Path.join_assoc, Path.join_assoc, Path.join_assoc]

theorem isAbsolute_join_of_root {root : Path} (h : root.isAbsolute = true) (p : Path) :
    (root.join p).isAbsolute = true := by
  rw [Path.isAbsolute_join, h, Bool.true_or]

/-- **Resolving is an action of joined directories**: taking the paths from `inner` and then from `outer` is taking them
from the joined directory.  An absolute directory therefore counts once, and all paths are absolute behind it.  Nothing
but the paths changes. -/
theorem resolve_resolve (c : Config) (outer inner : Path) :
    (c.resolve inner).resolve outer = c.resolve (outer.join inner) ∧
    (outer.isAbsolute = true →
      (c.resolve outer).resolve outer = c.resolve outer ∧
      (c.resolve outer).database.isAbsolute = true ∧
      (c.resolve outer).docsDir.isAbsolute = true ∧
      (c.resolve outer).suiteDir.isAbsolute = true) ∧
    (c.resolve outer).version = c.version ∧
    (c.resolve outer).maxCommits = c.maxCommits ∧
    (c.resolve outer).overviewSize = c.overviewSize ∧
    (c.resolve outer).trendSize = c.trendSize := by
  refine ⟨resolve_join c outer inner, fun habsolute => ?_, rfl, rfl, rfl, rfl⟩
  have hpath := isAbsolute_join_of_root habsolute
  refine ⟨?_, ?_⟩
  · rw [resolve_join, Path.join_absolute habsolute]
  · rw [resolve_eq]
    exact ⟨hpath c.database, hpath c.docsDir, hpath c.suiteDir⟩

end CommitCharts.Config
