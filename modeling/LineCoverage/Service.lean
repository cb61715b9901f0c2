/-! The continuous-integration service a snapshot names.

A run with a job id is a Travis CI job; without one (or with an empty one) no service is
named. The repository token is passed through.
-/

set_option autoImplicit false

namespace LineCoverage

structure ServiceInfo where
  serviceName : String := ""
  jobId : String := ""
  repoToken : String := ""
  deriving Repr, DecidableEq

def ServiceInfo.ofJob (jobId repoToken : Option String) : ServiceInfo :=
  let job := jobId.getD ""
  { serviceName := if job = "" then "" else "travis-ci", jobId := job, repoToken := repoToken.getD "" }

end LineCoverage
