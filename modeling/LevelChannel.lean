import LevelChannel.Payments.Deliveries
import LevelChannel.Payments.DefaultMethod
import LevelChannel.Lessons.Duplicates
import LevelChannel.Packages.Stacking
import LevelChannel.Refunds.Manual
import LevelChannel.Scheduling.LockOrder
import LevelChannel.Payments.ClaimLocks
import LevelChannel.Payments.PackageClaims
import LevelChannel.Legal.Mutation
import LevelChannel.Notifications.Iterations
import LevelChannel.Accounts.Purge
import LevelChannel.Calendar.Pushes
import LevelChannel.Calendar.Mirror
import LevelChannel.Subscriptions.Webhook
import LevelChannel.Subscriptions.Redemptions
import LevelChannel.Subscriptions.PaidTime
import LevelChannel.Pricing.CapsKept
import LevelChannel.Scheduling.BillableUnits
import LevelChannel.Pricing.TariffsKept
import LevelChannel.Calendar.CoverageKept
import LevelChannel.Payments.OneCharge
import LevelChannel.Accounts.Emails
import LevelChannel.Accounts.Passwords
import LevelChannel.Payments.LessonCharges
import LevelChannel.Payments.FifoSettlement
import LevelChannel.Accounts.InviteAccess
import LevelChannel.Accounts.TelegramCodes
import LevelChannel.Notifications.DirectDigest
import LevelChannel.Notifications.DailyDigest
import LevelChannel.Notifications.ConflictFanout
import LevelChannel.Notifications.ReminderCoverage
import LevelChannel.Encryption.PlaintextNulling
import LevelChannel.Accounts.Names
import LevelChannel.Accounts.TeacherLinks
import LevelChannel.Calendar.Webhook
import LevelChannel.Security.RateLimits
import LevelChannel.Payments.EventLog
import LevelChannel.Payments.OrderColumns
import LevelChannel.Calendar.Recurrence
import LevelChannel.Calendar.Painting
import LevelChannel.Calendar.HiddenSlots
import LevelChannel.Pricing.SlotVisibility
import LevelChannel.Lessons.Billing
import LevelChannel.Calendar.LearnerIcs
import LevelChannel.Payments.OldestDebt
import LevelChannel.Notifications.TelegramDigest
import LevelChannel.Admin.SettingWrites
import LevelChannel.Calendar.OauthState
import LevelChannel.Payments.DebtSummary
import LevelChannel.Schema.Migrations
