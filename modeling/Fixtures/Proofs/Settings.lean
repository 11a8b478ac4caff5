import Fixtures.Options.Basic

/-!
# Settings that differ in one place

Settings and requests that differ only in the policy, or only in whether output is echoed.
-/

namespace Fixtures

namespace Settings

/-- The settings with another policy. -/
def withPolicy (settings : Settings) (policy : Policy) : Settings :=
  { settings with onFailure := policy }

@[simp] theorem withPolicy_onFailure (settings : Settings) (policy : Policy) :
    (settings.withPolicy policy).onFailure = policy := rfl

@[simp] theorem withPolicy_scriptsDir (settings : Settings) (policy : Policy) :
    (settings.withPolicy policy).scriptsDir = settings.scriptsDir := rfl

@[simp] theorem withPolicy_extension (settings : Settings) (policy : Policy) :
    (settings.withPolicy policy).extension = settings.extension := rfl

@[simp] theorem withPolicy_outDir (settings : Settings) (policy : Policy) :
    (settings.withPolicy policy).outDir = settings.outDir := rfl

@[simp] theorem withPolicy_dryRun (settings : Settings) (policy : Policy) :
    (settings.withPolicy policy).dryRun = settings.dryRun := rfl

@[simp] theorem withPolicy_validate (settings : Settings) (policy : Policy) :
    (settings.withPolicy policy).validate = settings.validate := rfl

/-- The settings with an echo or without one. -/
def withVerbose (settings : Settings) (verbose : Bool) : Settings :=
  { settings with verbose := verbose }

@[simp] theorem withVerbose_verbose (settings : Settings) (verbose : Bool) :
    (settings.withVerbose verbose).verbose = verbose := rfl

end Settings

/-- The request with another policy. -/
def Options.Request.withPolicy (request : Request) (policy : Policy) : Request :=
  { request with settings := request.settings.withPolicy policy }

/-- A request with its own policy is the same request. -/
theorem Options.Request.withPolicy_self (request : Request) :
    request.withPolicy request.settings.onFailure = request := rfl

/-- The request with an echo or without one. -/
def Options.Request.withVerbose (request : Request) (verbose : Bool) : Request :=
  { request with settings := request.settings.withVerbose verbose }

end Fixtures
