import Dilemma.Command.Tools.Awk.Reader.Statement

/-! # Reading line programs

A program is read on if there is something wrong in it, because more can be
wrong behind that. -/

namespace Dilemma.Awk

/-- So many complaints are enough. -/
def complaintLimit : Nat := 5

/-- A program, or what is wrong with it. -/
def parse (text : String) : Except (List Complaint) Script :=
  let all := tokens text
  let fuel := 20 * all.length + 40
  match ((readScript fuel fuel).run (.start all) : Except Obstacle Script × Progress) with
  | (.ok script, progress) =>
      if progress.faults.isEmpty then .ok script
      else .error (progress.faults.reverse.take complaintLimit)
  | (_, progress) => .error (progress.faults.reverse.take complaintLimit)

end Dilemma.Awk
