import CommitCharts.Run

/-!
# CommitCharts.ExitCode — success and failure

A missing store is the expected state before the first measurement and no failure.  Anything else that
leaves charts as they were, or undone, is one.
-/

namespace CommitCharts.ExitCode

def success : UInt32 := 0

def failure : UInt32 := 1

def ofOutcome : RunOutcome → UInt32
  | .noStore _ => success
  | .unavailable .. => failure
  | .noData => failure
  | .insufficientData _ => failure
  | .completed report => if report.success then success else failure

end CommitCharts.ExitCode
