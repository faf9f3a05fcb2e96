import BeidarPos.Word
import BeidarPos.Rounding
import BeidarPos.Table
import BeidarPos.Keyed
import BeidarPos.Runs
import BeidarPos.Journal
import BeidarPos.Money
import BeidarPos.RoundedDivision
import BeidarPos.Models
import BeidarPos.Store
import BeidarPos.Cells
import BeidarPos.SplitLegs
import BeidarPos.ProcessSale
import BeidarPos.ReturnSale
import BeidarPos.ReturnSalePartial
import BeidarPos.Payments
import BeidarPos.Shifts
import BeidarPos.ReturnJournal
import BeidarPos.PartialJournal
import BeidarPos.SaleJournal
import BeidarPos.Accounting
import BeidarPos.PaymentJournal
import BeidarPos.Calls
import BeidarPos.ReturnCash
import BeidarPos.ReturnValue
import BeidarPos.Staff
import BeidarPos.StaffAdmins
import BeidarPos.PurchaseOrders
import BeidarPos.PurchaseJournal
import BeidarPos.PurchasePayments
import BeidarPos.StockLedger
import BeidarPos.ReceivedLines
import BeidarPos.Receiving
import BeidarPos.LanServer
import BeidarPos.LanMediation
import BeidarPos.Crm
import BeidarPos.CustomerBalances
import BeidarPos.Csv
import BeidarPos.Decimal
import BeidarPos.ProductsCsv
import BeidarPos.CsvRoundTrip
import BeidarPos.Json
import BeidarPos.DatabaseExport
import BeidarPos.Backup
import BeidarPos.BackupRoundTrip
import BeidarPos.Interleaving
import BeidarPos.ParkedSales
import BeidarPos.LoginLockout
import BeidarPos.LanDevices
import BeidarPos.OrderConcurrency
import BeidarPos.StaffPins
import BeidarPos.ShiftLifecycle
import BeidarPos.InstallmentReaders
import BeidarPos.SaleList
import BeidarPos.CartTotal
import BeidarPos.DrawerIdentity
import BeidarPos.InstallmentDebt
import BeidarPos.ReturnLimits
import BeidarPos.ClientFields
import BeidarPos.Migrations
import BeidarPos.CloudSession
import BeidarPos.License
import BeidarPos.CloudBackup
import BeidarPos.LicenseOutage
import BeidarPos.HasMany
import BeidarPos.DocumentLines
import BeidarPos.ProductEdits
import BeidarPos.StaffLogins
import BeidarPos.ReturnsPossible
import BeidarPos.Handlers
import BeidarPos.ClientMode
import BeidarPos.LanClient
import BeidarPos.PinnedCertificate
import BeidarPos.ProductCache
import BeidarPos.ReturnArithmetic
import BeidarPos.SaleReversal
import BeidarPos.RemainingLegs
import BeidarPos.InstallmentPlans
import BeidarPos.PartialReturns
import BeidarPos.PartsAccepted
import BeidarPos.LoyaltyPoints
import BeidarPos.PaymentDeletion
import BeidarPos.InstallmentCollection
import BeidarPos.DatabaseRestore
import BeidarPos.Base64
import BeidarPos.CloudRestore
import BeidarPos.SplitRefunds
import BeidarPos.ConnectTarpit
import BeidarPos.Discounts
import BeidarPos.DiscountUsage
import BeidarPos.ProductSearch
import BeidarPos.ProductReadBack
import BeidarPos.Usernames
import BeidarPos.OrderEdits
import BeidarPos.CsvBlankCells
import BeidarPos.LexicalPath
import BeidarPos.ImageStore
import BeidarPos.ImageDeletion
import BeidarPos.ProductImages
import BeidarPos.Buffers
import BeidarPos.ReceiptRaster
import BeidarPos.Calendar
import BeidarPos.DateTexts
import BeidarPos.InstallmentDates
import BeidarPos.Statistics
import BeidarPos.YearlyChart
import BeidarPos.OverdueAlerts
import BeidarPos.NetQuantities
import BeidarPos.LanConfigFile
import BeidarPos.PreferencesRows
import BeidarPos.Extended
import BeidarPos.FloatImport
import BeidarPos.FloatImportExact
import BeidarPos.CsvNumbers
import BeidarPos.ZohoInvoices
import BeidarPos.ZohoDelivery
import BeidarPos.LicenseServer
import BeidarPos.Binary64
import BeidarPos.FloatMoney
import BeidarPos.CartPersistence
import BeidarPos.UsbScanner
import BeidarPos.DesktopSession
import BeidarPos.SessionLock
import BeidarPos.Rotation
import BeidarPos.AiStream
import BeidarPos.BackupRetention
import BeidarPos.ReportExport
import BeidarPos.MonthlyComparison
import BeidarPos.SecretStore
import BeidarPos.Updater
