import RuleSets.Utility.Block
import RuleSets.Utility.Calendar
import RuleSets.Utility.Difference
import RuleSets.Utility.Encode
import RuleSets.Utility.Expression
import RuleSets.Utility.Find
import RuleSets.Utility.Grep
import RuleSets.Utility.Lines
import RuleSets.Utility.Run
import RuleSets.Utility.Sed
import RuleSets.Utility.Sort
import RuleSets.Utility.Stream

/-!
# The table of tools

The tools by the names under which they are installed.
-/

namespace RuleSets.Utility

open Machine (Environment Program)

/-- The tools and their names. -/
def tools : List (String × (List Text → Tool Unit)) :=
  [("arch", Tool.constant "x86_64"), ("base64", Tool.base64), ("basename", Tool.basename), ("cat", Tool.cat),
    ("chmod", Tool.chmod), ("cksum", Tool.cksum), ("cmp", Tool.cmp), ("comm", Tool.comm), ("cp", Tool.cp),
    ("cut", Tool.cut), ("date", Tool.date), ("dd", Tool.dd), ("diff", Tool.diff), ("dirname", Tool.dirname), ("echo", Tool.echo), ("egrep", Tool.egrep),
    ("env", Tool.env), ("expr", Tool.expr), ("false", fun _ => Tool.setStatus 1), ("fgrep", Tool.fgrep),
    ("find", Tool.find), ("fold", Tool.fold), ("grep", Tool.grep), ("groups", Tool.constant "root"),
    ("head", Tool.head), ("hostname", Tool.constant "localhost"), ("id", Tool.id_),
    ("install", Tool.install), ("kill", Tool.kill), ("ln", Tool.ln), ("logname", Tool.constant "root"), ("ls", Tool.ls),
    ("md5sum", Tool.digests Digest.md5), ("mkdir", Tool.mkdir), ("mktemp", Tool.mktemp), ("mv", Tool.mv), ("nice", Tool.nice),
    ("nl", Tool.nl), ("nohup", Tool.nohup), ("nproc", Tool.constant "1"), ("od", Tool.od), ("paste", Tool.paste),
    ("printenv", Tool.printenv), ("printf", Tool.printf), ("pwd", Tool.pwd),
    ("readlink", Tool.readlink), ("realpath", Tool.realpath), ("rev", Tool.rev), ("rm", Tool.rm),
    ("rmdir", Tool.rmdir), ("sed", Tool.sed), ("seq", Tool.seq),
    ("setsid", Tool.runPlain "cfw"), ("sha1sum", Tool.digests Digest.sha1), ("sha256sum", Tool.digests Digest.sha256), ("sha384sum", Tool.digests Digest.sha384), ("sha512sum", Tool.digests Digest.sha512), ("sleep", Tool.sleep), ("sort", Tool.sort),
    ("split", Tool.split), ("stat", Tool.stat), ("stdbuf", Tool.runPlain "i:o:e:"), ("sync", fun _ => pure ()),
    ("tac", Tool.tac), ("tail", Tool.tail), ("tee", Tool.tee), ("timeout", Tool.timeout),
    ("touch", Tool.touch), ("tr", Tool.tr), ("true", fun _ => pure ()),
    ("truncate", Tool.truncate), ("tty", Tool.tty), ("uname", Tool.uname), ("uniq", Tool.uniq),
    ("wc", Tool.wc), ("which", Tool.which), ("whoami", Tool.constant "root"),
    ("xargs", Tool.xargs), ("yes", Tool.yes)]

/-- The program of a tool. -/
def program? (name : Text) : Option (List Text → Environment → Program) :=
  (tools.find? (·.1.toList == name)).map fun tool => Tool.toProgram tool.2

end RuleSets.Utility
