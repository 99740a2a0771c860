import ApiStubs.Calendar
import ApiStubs.Path

/- What a program finds around it and does not change: its platform, working directory and variables, the
   clock, its input, and the pages of the web. -/

set_option autoImplicit false

namespace ApiStubs

inductive Input where
  | text (content : String)
  | broken (reason : String)
  | interrupted
deriving DecidableEq

inductive Reply where
  | page (status : Int) (contentType content : String)
  | unreachable (reason : String)
deriving DecidableEq

structure Host where
  platform : String
  directory : Path
  environment : List (String × String)
  now : DateTime
  input : Input
  web : String → Reply
  interactive : Bool

namespace Host

def lookup (host : Host) (name : String) : Option String :=
  host.environment.lookup name

def setting? (host : Host) (name : String) : Option String :=
  (host.lookup name).filter (· != "")

def place (host : Host) : List String :=
  host.directory.parts

-- The home directory, which is the root user's when none is given.
def home (host : Host) : Path :=
  match host.lookup "HOME" with
  | none => .ofText "/root"
  | some s =>
      let trimmed := Text.trimRight (· == '/') s.toList
      if trimmed.isEmpty then .ofText "/" else .ofText (String.ofList trimmed)

def hasBaseDirectories (host : Host) : Bool :=
  host.platform == "Linux" || "BSD".toList.isSuffixOf host.platform.toList

def ownDirectory (host : Host) (name : String) (standard : List String) : Path :=
  if host.hasBaseDirectories then
    let base : Path :=
      match host.setting? name with
      | some s => .ofText s
      | none => host.home.join ⟨"", standard⟩
    base.child "specmock"
  else host.home.child ".specmock"

def configDirectory (host : Host) : Path :=
  host.ownDirectory "XDG_CONFIG_HOME" [".config"]

def dataDirectory (host : Host) : Path :=
  host.ownDirectory "XDG_DATA_HOME" [".local", "share"]

end Host

end ApiStubs
