import KasbOKar.Lib.Table
import KasbOKar.Lib.Cached
import KasbOKar.Lib.Runs
import KasbOKar.Lib.ReadCommitted
import KasbOKar.Lib.EarliestFirst
import KasbOKar.Lib.Transcript
import KasbOKar.Lib.FifoCache
import KasbOKar.Lib.SlidingWindow
import KasbOKar.Lib.JsonText
import KasbOKar.Lib.DecimalText
import KasbOKar.Lib.Session
import KasbOKar.Lib.Serial
import KasbOKar.Lib.Journal
import KasbOKar.Lib.Purge
import KasbOKar.Lib.Aggregate
import KasbOKar.Models
import KasbOKar.Wallet.Tables
import KasbOKar.Wallet.Service
import KasbOKar.Wallet.Ledger
import KasbOKar.Wallet.Transactions
import KasbOKar.Wallet.Concurrent
import KasbOKar.Wallet.Trial
import KasbOKar.Wallet.Deduction
import KasbOKar.Wallet.Optimal
import KasbOKar.Wallet.Reminders
import KasbOKar.Payment.Tables
import KasbOKar.Payment.Service
import KasbOKar.Payment.Approval
import KasbOKar.Payment.Handlers
import KasbOKar.Payment.Transactions
import KasbOKar.Payment.Concurrent
import KasbOKar.Payment.Webhook
import KasbOKar.Payment.Panel
import KasbOKar.Payment.Reserved
import KasbOKar.Payment.CodeAdmin
import KasbOKar.Payment.Requested
import KasbOKar.Payment.TopupSwitch
import KasbOKar.Payment.Discount
import KasbOKar.Payment.Books
import KasbOKar.Payment.Trace
import KasbOKar.Payment.Reconcile
import KasbOKar.Payment.Referral
import KasbOKar.Order.Tables
import KasbOKar.Order.Service
import KasbOKar.Order.Reservation
import KasbOKar.Order.Stock
import KasbOKar.Order.Concurrent
import KasbOKar.Order.Oversell
import KasbOKar.Order.Detection
import KasbOKar.Order.Footprint
import KasbOKar.Shop.Tables
import KasbOKar.Shop.Handlers
import KasbOKar.Shop.Isolation
import KasbOKar.Shop.Refusal
import KasbOKar.Shop.Correction
import KasbOKar.Shop.FirstContact
import KasbOKar.Bot.Manager
import KasbOKar.Bot.Polling
import KasbOKar.Bot.Webhook
import KasbOKar.Bot.SeenUpdates
import KasbOKar.Bot.Start
import KasbOKar.Bot.Main
import KasbOKar.Bot.Suspension
import KasbOKar.Bot.KillSwitch
import KasbOKar.Bot.Knowledge
import KasbOKar.Bot.Otp
import KasbOKar.Bot.PhoneOtp
import KasbOKar.Chat.Debounce
import KasbOKar.Chat.BatchWait
import KasbOKar.Chat.RateLimiter
import KasbOKar.Chat.Tables
import KasbOKar.Chat.Handlers
import KasbOKar.Chat.Reply
import KasbOKar.Chat.SplitMessages
import KasbOKar.Chat.Billing
import KasbOKar.Chat.Unpaid
import KasbOKar.Chat.Transactions
import KasbOKar.Chat.Detections
import KasbOKar.Chat.Notices
import KasbOKar.Chat.Classifier
import KasbOKar.Chat.ChattyReply
import KasbOKar.Ai.Circuit
import KasbOKar.Ai.Provider
import KasbOKar.Ai.Pool
import KasbOKar.Ai.Malformed
import KasbOKar.Chat.Availability
import KasbOKar.Chat.DetectionCharge
import KasbOKar.Input.Numbers
import KasbOKar.Input.Workbook
import KasbOKar.Input.Phone
import KasbOKar.Input.Columns
import KasbOKar.Bot.OtpService
import KasbOKar.Admin.Tables
import KasbOKar.Admin.Handlers
import KasbOKar.Admin.Panel
import KasbOKar.Admin.Effects
import KasbOKar.Admin.Elsewhere
import KasbOKar.Admin.Audit
import KasbOKar.Admin.Bookings
import KasbOKar.Admin.Validity
import KasbOKar.Admin.Authority
import KasbOKar.Admin.Refinement
import KasbOKar.Lib.Routes
import KasbOKar.Bot.Keyboards
import KasbOKar.Bot.Callbacks
import KasbOKar.Payment.Statistics
import KasbOKar.Lib.Past
import KasbOKar.Bot.ChannelGate
