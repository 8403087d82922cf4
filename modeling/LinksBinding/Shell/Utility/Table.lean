import LinksBinding.Shell.Utility.Blocks
import LinksBinding.Shell.Utility.Columns
import LinksBinding.Shell.Utility.Comparing
import LinksBinding.Shell.Utility.Copying
import LinksBinding.Shell.Utility.Dates
import LinksBinding.Shell.Utility.Editing
import LinksBinding.Shell.Utility.Encoding
import LinksBinding.Shell.Utility.Files
import LinksBinding.Shell.Utility.Finding
import LinksBinding.Shell.Utility.Numbers
import LinksBinding.Shell.Utility.Paths
import LinksBinding.Shell.Utility.Running
import LinksBinding.Shell.Utility.Searching
import LinksBinding.Shell.Utility.Sorting
import LinksBinding.Shell.Utility.Telling

/-!
# All programs

The programs that scripts can run, by their names.
-/

namespace LinksBinding.Shell

/-- The programs and their names. -/
def programs : List (String × Program) :=
  [("cat", cat), ("tee", tee), ("tac", tac), ("head", head), ("tail", tail), ("wc", wc),
    ("nl", nl), ("yes", yes), ("tr", tr), ("cut", cut), ("paste", paste), ("rev", rev),
    ("fold", fold), ("expand", expand), ("od", od), ("sort", sort), ("uniq", uniq),
    ("comm", comm), ("join", join), ("grep", grep), ("sed", sed), ("egrep", grepWith "E"),
    ("fgrep", grepWith "F"), ("seq", seq), ("expr", expr), ("sleep", sleep),
    ("basename", basename), ("dirname", dirname), ("readlink", readlink),
    ("realpath", realpath), ("ls", ls), ("stat", stat), ("rm", rm), ("rmdir", rmdir),
    ("mkdir", mkdir), ("touch", touch), ("chmod", chmod), ("mktemp", mktemp), ("cp", cp),
    ("mv", mv), ("ln", ln), ("cmp", cmp), ("diff", diff), ("xargs", xargs), ("env", env),
    ("printenv", printenv), ("timeout", timeout), ("nice", nice), ("nohup", nohup),
    ("stdbuf", stdbuf), ("setsid", setsid), ("find", findFiles), ("dd", dd),
    ("truncate", truncate), ("date", date), ("base64", base64), ("cksum", cksum),
    ("md5sum", digestProgram "md5sum" Digest.md5),
    ("sha1sum", digestProgram "sha1sum" Digest.sha1),
    ("sha256sum", digestProgram "sha256sum" Digest.sha256), ("echo", echo),
    ("printf", printf), ("test", testAs "test"), ("[", testAs "["), ("pwd", pwd),
    ("which", which), ("uname", uname), ("arch", arch), ("whoami", whoami),
    ("id", tellUser), ("tty", tty), ("true", fun _ _ => return ()),
    ("false", fun _ _ => Session.setStatus 1), ("sync", fun _ _ => return ())]

/-- The names of the program that runs scripts. -/
def shellNames : List String := ["sh", "dash"]

/-- The names of all programs. -/
def programNames : List String := shellNames ++ programs.map (·.1)

end LinksBinding.Shell
