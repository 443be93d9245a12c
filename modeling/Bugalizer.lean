import Bugalizer.Db.Deletion
import Bugalizer.Db.Now
import Bugalizer.Db.Retried
import Bugalizer.Db.Usage
import Bugalizer.FixModel
import Bugalizer.GitOps.Numstat
import Bugalizer.GitOps.Redaction
import Bugalizer.GitOps.Slug
import Bugalizer.GitOps.Repo
import Bugalizer.GitOps.Trailer
import Bugalizer.Ingest.Mapping
import Bugalizer.Ingest.Replaced
import Bugalizer.Pipeline.Bundle
import Bugalizer.Pipeline.Containment
import Bugalizer.Pipeline.Credit
import Bugalizer.Pipeline.FailureInfo
import Bugalizer.Pipeline.Freshness
import Bugalizer.Pipeline.ModelAnswer
import Bugalizer.Pipeline.Persist
import Bugalizer.Pipeline.Validator
import Bugalizer.RepoMap.Cache
import Bugalizer.ReportMoves
import Bugalizer.Restart
import Bugalizer.RetryCap
import Bugalizer.Sync.Attended
import Bugalizer.Sync.Spending
import Bugalizer.SpentOnce
import Bugalizer.PaidCalls
import Bugalizer.Sync.Pushing
import Bugalizer.Sync.Desks
import Bugalizer.ResultRevisions
import Bugalizer.Offered
import Bugalizer.Sync.Jobs
import Bugalizer.Sync.KeyRelease
import Bugalizer.Sync.Listing
import Bugalizer.Sync.Walk
import Bugalizer.Sync.Outcomes
import Bugalizer.Sync.PrSteps
import Bugalizer.Sync.ResultBounds
import Bugalizer.Sync.Routing
import Bugalizer.Sync.SlotOwners
import Bugalizer.Terminal
