/-
**Versions of a topology.**

A version is any text; a topology decides which ones it can produce.
-/

import Provision.Text.Blank

namespace Provision

/-- The version of a topology. -/
structure Version where
  text : String
  deriving DecidableEq, Repr

namespace Version

def v1 : Version := ⟨"v1"⟩

def v2 : Version := ⟨"v2"⟩

def v3 : Version := ⟨"v3"⟩

def v4 : Version := ⟨"v4"⟩

def v5 : Version := ⟨"v5"⟩

/-- The versions that have a name of their own. -/
def known : List Version := [v1, v2, v3, v4, v5]

/-- Whether a version says nothing. -/
def isBlank (version : Version) : Bool := Text.isBlank version.text

end Version

end Provision
