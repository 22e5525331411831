import MakePlan.Catalog.Builtin
import MakePlan.Catalog.Edit
import MakePlan.Catalog.Loading
import MakePlan.Configuration.Tokens
import MakePlan.Makefile.Layout
import MakePlan.Makefile.Reader

/-!
# Sessions

Working on one build step by step: the catalog and the configuration may change at any time, and the
last plan and its Makefile are kept until they are made again. A step that fails gives no session,
so the one before it goes on.
-/

namespace MakePlan

set_option autoImplicit false

structure Session where
  catalog : Catalog := .builtin
  configuration : Configuration := {}
  plan : Option Plan := none
  makefile : String := ""

namespace Session

def useCatalog (session : Session) (document : Option String) : Except Failure Session :=
  match document with
  | none => .ok { session with catalog := .builtin }
  | some document => (Catalog.parse document).map fun catalog => { session with catalog }

/-- Reads build options afresh; earlier ones are forgotten. -/
def useTokens (session : Session) (tokens : List String) : Except Failure Session :=
  (Configuration.ofTokens tokens).map fun configuration => { session with configuration }

def edit (session : Session) (change : Catalog → Catalog) : Session :=
  { session with catalog := change session.catalog }

def settings (session : Session) : Except Failure Settings :=
  session.configuration.resolve session.catalog

def planned (session : Session) : Except Failure (Plan × Session) :=
  session.settings.map fun settings =>
    let plan := session.configuration.plan session.catalog settings
    (plan, { session with plan := some plan })

def rendered (session : Session) : Option (String × Session) :=
  session.plan.map fun plan => (plan.render, { session with makefile := plan.render })

def reread (session : Session) : Makefile := .read session.makefile

end Session

end MakePlan
