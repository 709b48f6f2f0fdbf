import Issuebot.Orchestrator.Approval
import Issuebot.Orchestrator.ApprovalOrder
import Issuebot.Orchestrator.ApprovalTrust
import Issuebot.Orchestrator.Budget
import Issuebot.Orchestrator.Lifecycle
import Issuebot.Orchestrator.Separation
import Issuebot.GitHub.Evidence
import Issuebot.GitHub.History
import Issuebot.Orchestrator.ApprovedText
import Issuebot.Orchestrator.ChainAccounting
import Issuebot.Orchestrator.DraftFiling
import Issuebot.Orchestrator.EvidenceLoss
import Issuebot.Orchestrator.HandBack
import Issuebot.Orchestrator.ReviewFiled
import Issuebot.Agent.AccountLock
import Issuebot.Agent.Environment
import Issuebot.Agent.Upkeep
import Issuebot.Agent.RunState
import Issuebot.Agent.SessionRules
import Issuebot.Orchestrator.ResumePlan
import Issuebot.Db.Queries
import Issuebot.Db.SinkOrder
import Issuebot.Db.Migrate
import Issuebot.Orchestrator.LedgerSeed
import Issuebot.Orchestrator.ParentMemory
import Issuebot.Orchestrator.ParentRuns
import Issuebot.Orchestrator.ReviewLimits
import Issuebot.Orchestrator.Additions
import Issuebot.Orchestrator.Doors
import Issuebot.Orchestrator.StepOrder
import Issuebot.Orchestrator.Eviction
import Issuebot.Egress.Proxy
import Issuebot.Logic.Announcements
import Issuebot.Web.Actions
import Issuebot.Web.Alerts
import Issuebot.GitHub.LabelHistory
import Issuebot.Orchestrator.ConflictBounce
import Issuebot.Orchestrator.TerminalFinish
import Issuebot.Agent.CleanUp
import Issuebot.Orchestrator.AutoTriage
import Issuebot.GitHub.Normalise
import Issuebot.GitHub.OpenedSince
import Issuebot.Agent.Characters
import Issuebot.Agent.Hidden
import Issuebot.Agent.VisibleOutput
import Issuebot.Agent.Envelopes
import Issuebot.Agent.Scrub
import Issuebot.Agent.VerdictLimits
import Issuebot.Orchestrator.DraftTitles
import Issuebot.Agent.KnownValues
import Issuebot.Agent.ScrubTwice
import Issuebot.Orchestrator.WaitLoop
import Issuebot.Orchestrator.EscapeRetries
import Issuebot.Orchestrator.Waiting
import Issuebot.Orchestrator.Dispositions
import Issuebot.Orchestrator.LabelWrites
import Issuebot.Agent.RateLimits
import Issuebot.Agent.StreamParser
import Issuebot.Agent.StreamParser
import Issuebot.Agent.TurnLoop
import Issuebot.Items
import Issuebot.Config.FrontMatter
import Issuebot.Egress.Grammar
import Issuebot.Agent.Classification
import Issuebot.Logic.Regex
import Issuebot.Agent.JqLanguage
import Issuebot.Agent.JqFilter
import Issuebot.Agent.PromptEdges
import Issuebot.Logic.Utf8
import Issuebot.Agent.TurnLog
import Issuebot.Agent.CaptureTexts
import Issuebot.Agent.StreamLines
import Issuebot.Agent.CaptureCaps
