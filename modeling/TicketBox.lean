import TicketBox.IssueOnceProofs
import TicketBox.StatusProofs
import TicketBox.HoldProofs
import TicketBox.UserLimitProofs
import TicketBox.StockProofs
import TicketBox.ReserveProofs
import TicketBox.SoldProofs
import TicketBox.ScriptProofs
import TicketBox.SyncProofs
import TicketBox.BatchProofs
import TicketBox.OfflineProofs
import TicketBox.DeviceOnceProofs
import TicketBox.IdempotencyProofs
import TicketBox.SeedProofs
import TicketBox.RateLimitProofs
import TicketBox.GateRefProofs
import TicketBox.RebalanceProofs
import TicketBox.GreedyProofs
import TicketBox.OrganizerAccess
import TicketBox.DeliveryProofs
import TicketBox.LifecycleProofs
import TicketBox.RetryProofs
import TicketBox.AnonymousProofs
import TicketBox.AgreeProofs
import TicketBox.ReplayProofs
import TicketBox.QrPayload
import TicketBox.GateRuleProofs
import TicketBox.RequestHash
import TicketBox.ReminderProofs
import TicketBox.SeatmapProofs
import TicketBox.ConcertCacheProofs
import TicketBox.RateDenial
import TicketBox.WebhookMessage
import TicketBox.SaleListing
import TicketBox.SaleWindow
import TicketBox.TypeUpdateProofs
import TicketBox.SoldOutProofs
import TicketBox.ForeignKeys
import TicketBox.RemovalService
import TicketBox.RemovalProofs
import TicketBox.RemovalExact
import TicketBox.BookingSteps
import TicketBox.CompensationProofs
import TicketBox.SeveralTypesProofs
import TicketBox.CreatedHold
import TicketBox.ExpiryProofs
import TicketBox.GuestImport
import TicketBox.GuestImportProofs
import TicketBox.SeatMapView
import TicketBox.SeatMapViewProofs
import TicketBox.ReminderMail
import TicketBox.ReminderMailProofs
import TicketBox.WaitingRoom
import TicketBox.WaitingRoomProofs
import TicketBox.OrderAmounts
import TicketBox.OrganizerExact
import TicketBox.WaitingRoomQueue
import TicketBox.AccountProofs
import TicketBox.PressKitStatus
import TicketBox.CheckoutOnce
import TicketBox.AdmissionProofs
import TicketBox.MyOrdersProofs
import TicketBox.SeatOrderProofs
import TicketBox.TicketAllowance
