import BoardConsole.Shell.Utility.Awk
import BoardConsole.Shell.Utility.Block
import BoardConsole.Shell.Utility.Characters
import BoardConsole.Shell.Utility.Checksum
import BoardConsole.Shell.Utility.Compare
import BoardConsole.Shell.Utility.Compress
import BoardConsole.Shell.Utility.Copy
import BoardConsole.Shell.Utility.Count
import BoardConsole.Shell.Utility.Date
import BoardConsole.Shell.Utility.Diff
import BoardConsole.Shell.Utility.Dump
import BoardConsole.Shell.Utility.Edit
import BoardConsole.Shell.Utility.Ends
import BoardConsole.Shell.Utility.Expression
import BoardConsole.Shell.Utility.Factors
import BoardConsole.Shell.Utility.Fill
import BoardConsole.Shell.Utility.Find
import BoardConsole.Shell.Utility.Grep
import BoardConsole.Shell.Utility.Launch
import BoardConsole.Shell.Utility.Layout
import BoardConsole.Shell.Utility.Link
import BoardConsole.Shell.Utility.Make
import BoardConsole.Shell.Utility.Merge
import BoardConsole.Shell.Utility.OptionWords
import BoardConsole.Shell.Utility.Pages
import BoardConsole.Shell.Utility.Paths
import BoardConsole.Shell.Utility.Permit
import BoardConsole.Shell.Utility.Pieces
import BoardConsole.Shell.Utility.Remove
import BoardConsole.Shell.Utility.Repeats
import BoardConsole.Shell.Utility.Resolve
import BoardConsole.Shell.Utility.Sections
import BoardConsole.Shell.Utility.Sequence
import BoardConsole.Shell.Utility.Shuffle
import BoardConsole.Shell.Utility.Sort
import BoardConsole.Shell.Utility.Space
import BoardConsole.Shell.Utility.Status
import BoardConsole.Shell.Utility.Units

/-!
# Shell — Utilities

The utilities by the names under which a shell finds them.
-/

namespace BoardConsole.Shell.Utility

/-- Utilities for files. -/
def forFiles : List (String × Builtin) :=
  [("chgrp", chown "chgrp"), ("chmod", chmod), ("chown", chown "chown"), ("cp", cp), ("dd", dd),
   ("dir", listAs "dir" ["-C", "-b"]), ("du", du), ("find", find), ("gunzip", gzipAs ["-d"]),
   ("gzip", gzipAs []), ("install", install), ("link", link), ("ln", ln), ("ls", listAs "ls" []),
   ("mkdir", mkdir), ("mkfifo", mkfifo), ("mknod", mknod), ("mktemp", mktemp), ("mv", mv),
   ("pathchk", pathchk), ("readlink", readlink), ("realpath", realpath), ("rm", rm),
   ("rmdir", rmdir), ("stat", stat), ("touch", touch), ("truncate", truncate), ("unlink", unlink),
   ("vdir", listAs "vdir" ["-l", "-b"]), ("zcat", gzipAs ["-c", "-d"])]

/-- Utilities for text. -/
def forText : List (String × Builtin) :=
  [("awk", awkAs "awk"), ("b2sum", digestAs "b2sum" "blake2b"), ("base32", encodeAs "base32"),
   ("base64", encodeAs "base64"), ("basenc", basenc), ("cat", cat), ("cksum", cksum),
   ("cmp", cmp), ("comm", comm), ("csplit", csplit), ("cut", cut), ("diff", diff),
   ("egrep", grepAs "-E"), ("expand", expand), ("factor", factor), ("fgrep", grepAs "-F"),
   ("fmt", fmt), ("fold", fold), ("grep", grepAs ""), ("head", head), ("join", join),
   ("mawk", awkAs "mawk"), ("md5sum", digestAs "md5sum" "md5"), ("nawk", awkAs "nawk"),
   ("nl", nl), ("numfmt", numfmt), ("od", od), ("paste", paste), ("pr", pr), ("rev", rev),
   ("sed", sed), ("seq", seq), ("sha1sum", digestAs "sha1sum" "sha1"),
   ("sha224sum", digestAs "sha224sum" "sha224"), ("sha256sum", digestAs "sha256sum" "sha256"),
   ("sha384sum", digestAs "sha384sum" "sha384"), ("sha512sum", digestAs "sha512sum" "sha512"),
   ("shuf", shuf), ("sort", sort), ("split", split), ("sum", sum), ("tac", tac), ("tail", tail),
   ("tee", tee), ("tr", tr), ("tsort", tsort), ("unexpand", unexpand), ("uniq", uniq), ("wc", wc),
   ("yes", yes)]

/-- Utilities for programs and their surroundings. -/
def forPrograms : List (String × Builtin) :=
  [("[", Builtin.bracket), ("arch", fixedAnswer "arch" "x86_64"), ("basename", basename),
   ("date", date), ("dirname", dirname), ("echo", echo), ("env", env), ("expr", expr),
   ("false", Builtin.false_), ("getopt", getopt), ("groups", fixedLine "groups" "root"),
   ("hostname", fixedLine "hostname" "board"), ("id", id_), ("kill", Builtin.kill),
   ("logname", logname), ("nice", nice), ("nohup", nohup), ("nproc", fixedLine "nproc" "1"),
   ("printenv", printenv), ("printf", Builtin.printf), ("pwd", Builtin.pwd), ("setsid", setsid),
   ("sleep", sleep), ("stdbuf", stdbuf), ("sync", Builtin.true_), ("test", Builtin.test),
   ("timeout", timeout), ("true", Builtin.true_), ("tty", tty), ("uname", uname),
   ("which", which), ("whoami", fixedLine "whoami" "root"), ("xargs", xargs)]

/-- All utilities. -/
def all : List (String × Builtin) := forFiles ++ forText ++ forPrograms

end BoardConsole.Shell.Utility
