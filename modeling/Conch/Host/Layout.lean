import Conch.Host.World

/-!
The files that are there before a session makes any: the usual directories, the
devices, and the programs.
-/

namespace Conch

/-- The directories that are always there. -/
def Volume.usualDirectories : List Path :=
  [["bin"], ["dev"], ["etc"], ["home"], ["proc"], ["root"], ["tmp"], ["usr"], ["usr", "bin"],
    ["usr", "lib"], ["var"], ["var", "tmp"]]

/-- The programs that can be run. -/
def Volume.programs : List Text :=
  ["sh", "true", "false", "tr", "printf", "cat", "head", "sleep"]

/-- The devices that commands use. -/
def Volume.devices : List (Path × Entry) :=
  [(["dev", "null"], .nullDevice), (["dev", "zero"], .zeroDevice),
    (["dev", "full"], .fullDevice)]

/-- All programs as entries of a directory. -/
def Volume.programsIn (directory : Path) : List (Path × Entry) :=
  Volume.programs.map fun name => (directory ++ [name], .program name)

/-- The volume with only what is always there. -/
def Volume.usual : Volume where
  entries :=
    Volume.usualDirectories.map (·, .directory) ++ Volume.devices ++
      Volume.programsIn ["usr", "bin"] ++ Volume.programsIn ["bin"]

end Conch
