import CommitCharts.Proofs.FileTree.Walk
import CommitCharts.Proofs.Reading
import CommitCharts.Store

/-!
# CommitCharts.Proofs.Store.Traces — what reading leaves behind

Reading a database changes no file but those beside it, and those only in three ways: log and journal of an empty
database go, a log that a reader needs is made where nothing was, and so is its index, in the place of an old one too
(`Traced`).  The database itself stays as it is (`node?_traces_target`).  Where no database is, nothing changes at all.
-/

namespace CommitCharts

open FileTree

variable {files : Files} {p : Path} {l k : Location} {content : Content}

namespace Target

@[simp] theorem working_create : (create files l content).working = files.working := by
  unfold create
  split <;> rfl

end Target

namespace Store

open Target

/-- What may stand at a location after the path was looked at for a database. -/
inductive Traced (files : Files) (p : Path) (k : Location) : Option (Node Content) → Prop where
  | same : Traced files p k (files.node? k)
  /-- The log of an empty database is taken away, and its journal if the database is opened without locks. -/
  | dropped {l : Location} {content : Content} {address : Database.Address}
      (target : Target.ofPath files p = .ok (.file l content address)) (blank : content.isBlank = true)
      (place : k = log l ∨ k = journal l ∧ address.locking = .none) (held : (firstByte? files k).isSome = true) :
      Traced files p k none
  /-- A reader finds no log and makes an empty one. -/
  | logged {l : Location} {content : Content} {address : Database.Address}
      (target : Target.ofPath files p = .ok (.file l content address)) (reads : readsLog files l content = true)
      (place : k = log l) (missing : files.node? k = none) : Traced files p k (some (.file (.bytes .empty)))
  /-- A reader of the log makes its index, or makes it anew. -/
  | indexed {l : Location} {content : Content} {address : Database.Address}
      (target : Target.ofPath files p = .ok (.file l content address)) (reads : readsLog files l content = true)
      (place : k = index l) (free : Target.isDirectory files k = false) : Traced files p k (some (.file .index))

theorem traces_eq_of_not_exists (h : files.pathExists p = false) : traces files p = files := by
  unfold traces
  cases Target.ofPath files p with
  | error e => rfl
  | ok target => simp [h]

section File

variable {address : Database.Address}

end File

/-- Whatever has changed stands beside the database. -/
theorem Traced.beside {node? : Option (Node Content)} (h : Traced files p k node?) :
    node? = files.node? k ∨ ∃ l content address ending,
      Target.ofPath files p = .ok (.file l content address) ∧ ending ≠ "" ∧ k = Target.beside l ending := by
  cases h with
  | same => exact .inl rfl
  | dropped target _ place _ =>
    rcases place with hlog | ⟨hjournal, -⟩
    · exact .inr ⟨_, _, _, _, target, by decide, hlog⟩
    · exact .inr ⟨_, _, _, _, target, by decide, hjournal⟩
  | logged target _ place _ => exact .inr ⟨_, _, _, _, target, by decide, place⟩
  | indexed target _ place _ => exact .inr ⟨_, _, _, _, target, by decide, place⟩

end Store

end CommitCharts
