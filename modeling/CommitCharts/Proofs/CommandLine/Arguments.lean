import CommitCharts.CommandLine.Run
import CommitCharts.Proofs.Reading
import Mathlib.Tactic.SplitIfs

/-!
# CommitCharts.Proofs.CommandLine.Arguments — the number of commits that is asked for

A command line that asks for no commits is not accepted, wherever and however the number is given
(`maxCommits_of_ofArguments`): each argument that is read keeps the number positive.
-/

namespace CommitCharts.CommandLine

/-! ### One argument -/

theorem readCount_ne_zero {s : String} {n : UInt32} (h : readCount s = .ok n) : n ≠ 0 := by
  unfold readCount at h
  extract_lets ds at h
  cases hk : Text.number? 10 ds with
  | none =>
    rw [hk] at h
    cases h
  | some k =>
    rw [hk] at h
    dsimp only at h
    split_ifs at h with hbounds
    obtain rfl := Except.ok.inj h
    intro hzero
    have hvalue : k.toUInt32.toNat = k := UInt32.toNat_ofNat_of_lt' hbounds.2
    rw [hzero] at hvalue
    exact Nat.ne_of_lt hbounds.1 hvalue

namespace Given

/-- If a number of commits was read, it is positive. -/
def Positive (g : Given) : Prop := g.maxCommits ≠ some 0

variable {g g' : Given}

theorem positive_empty : ({} : Given).Positive := nofun

theorem Positive.set (hg : g.Positive) {o : OptionName} {v : String} (h : g.set o v = .ok g') : g'.Positive := by
  unfold Given.set at h
  dsimp only at h
  split_ifs at h with hhas
  · cases h
  · cases o with
    | maxCommits =>
      obtain ⟨n, hn, h⟩ := bind_eq_ok.1 h
      obtain rfl := Except.ok.inj h
      exact fun hzero => readCount_ne_zero hn (Option.some.inj hzero)
    | _ =>
      obtain ⟨value, -, h⟩ := bind_eq_ok.1 h
      obtain rfl := Except.ok.inj h
      exact hg

theorem Positive.settle (hg : g.Positive) (h : g.settle = .ok g') : g'.Positive := by
  unfold Given.settle at h
  split at h
  · obtain rfl := Except.ok.inj h
    exact hg
  · cases h
  · have hcomplete : { g with pending := none }.Positive := hg
    exact hcomplete.set h

theorem Positive.apply (hg : g.Positive) {f : Flag} (h : g.apply f = .ok g') : g'.Positive := by
  obtain ⟨settled, hsettled, h⟩ := bind_eq_ok.1 h
  have hpositive := hg.settle hsettled
  cases f with
  | verbose =>
    dsimp only at h
    split_ifs at h with hverbose
    obtain rfl := Except.ok.inj h
    exact hpositive
  | help => cases h
  | version => cases h

theorem Positive.applyLetters (hg : g.Positive) {verb : Option Verb} {letters : List Char}
    (h : g.applyLetters verb letters = .ok g') : g'.Positive := by
  induction letters generalizing g with
  | nil =>
    obtain rfl := Except.ok.inj h
    exact hg
  | cons c cs ih =>
    rw [Given.applyLetters] at h
    cases hflag : Flag.ofLetter? verb c with
    | none =>
      rw [hflag] at h
      cases h
    | some f =>
      rw [hflag] at h
      obtain ⟨next, hnext, h⟩ := bind_eq_ok.1 h
      exact ih (hg.apply hnext) h

theorem Positive.applyLong (hg : g.Positive) {verb : Option Verb} {name : String} {value : Option String}
    (h : g.applyLong verb name value = .ok g') : g'.Positive := by
  unfold Given.applyLong at h
  cases hflag : Flag.ofName? verb name with
  | none =>
    rw [hflag] at h
    cases h
  | some f =>
    rw [hflag] at h
    dsimp only at h
    split_ifs at h
    exact hg.apply h

theorem Positive.begin (hg : g.Positive) {o : OptionName} {value : Option String} (h : g.begin o value = .ok g') :
    g'.Positive := by
  obtain ⟨settled, hsettled, h⟩ := bind_eq_ok.1 h
  have hpositive := hg.settle hsettled
  cases value with
  | none =>
    obtain rfl := Except.ok.inj h
    exact hpositive
  | some v => exact hpositive.set h

theorem Positive.plain (hg : g.Positive) {a : String} (h : g.plain a = .ok g') : g'.Positive := by
  unfold Given.plain at h
  split at h
  · obtain rfl := Except.ok.inj h
    exact hg
  · cases h

theorem Positive.withEnvironment (hg : g.Positive) {db : Option String} (h : g.withEnvironment db = .ok g') :
    g'.Positive := by
  unfold Given.withEnvironment at h
  split at h
  · exact hg.set h
  · obtain rfl := Except.ok.inj h
    exact hg

/-! ### Lines -/

theorem Positive.readOptions (hg : g.Positive) {verb : Verb} {args : List String}
    (h : readOptions verb g args = .ok g') : g'.Positive := by
  induction args generalizing g with
  | nil => exact hg.settle h
  | cons a as ih =>
    rw [CommandLine.readOptions] at h
    split at h
    · -- two hyphens alone
      split_ifs at h
      exact hg.settle h
    · -- a long name, of an option or of a flag
      split at h
      · obtain ⟨next, hnext, h⟩ := bind_eq_ok.1 h
        exact ih (hg.begin hnext) h
      · obtain ⟨next, hnext, h⟩ := bind_eq_ok.1 h
        exact ih (hg.applyLong hnext) h
    · obtain ⟨next, hnext, h⟩ := bind_eq_ok.1 h
      exact ih (hg.applyLetters hnext) h
    · obtain ⟨next, hnext, h⟩ := bind_eq_ok.1 h
      exact ih (hg.plain hnext) h

end Given

theorem maxCommits_of_readArguments {db : Option String} {g : Given} {args : List String} {i : Invocation}
    (h : readArguments db g args = .ok i) : i.command.storeOptions.maxCommits ≠ some 0 := by
  induction args generalizing g with
  | nil => cases h
  | cons a as ih =>
    rw [readArguments.eq_def] at h
    dsimp only at h
    split_ifs at h with hhelp
    split at h
    · rename_i verb hverb
      obtain ⟨options, hoptions, h⟩ := bind_eq_ok.1 h
      obtain ⟨options', hoptions', h⟩ := bind_eq_ok.1 h
      obtain rfl := Except.ok.inj h
      have hpositive := (Given.positive_empty.readOptions hoptions).withEnvironment hoptions'
      cases verb
      · exact hpositive
      · exact hpositive
    · split at h
      · split at h
        · cases h
        · cases h
      · obtain ⟨next, -, h⟩ := bind_eq_ok.1 h
        exact ih h
      · obtain ⟨next, -, h⟩ := bind_eq_ok.1 h
        exact ih h
      · cases h

/-- **A command line that is accepted** does not ask for no commits. -/
theorem maxCommits_of_ofArguments {db : Option String} {args : List String} {i : Invocation}
    (h : Invocation.ofArguments db args = .ok i) : i.command.storeOptions.maxCommits ≠ some 0 :=
  maxCommits_of_readArguments h

end CommitCharts.CommandLine
